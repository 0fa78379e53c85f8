import Muster.Proofs.RacingRegistrations
/-!
A registration that nothing comes between: which error it ends with, or what it leaves in the store.
The answer depends on the request, the token and two questions to the store, asked in this order.
-/
namespace Muster.ControlPlane

open Auth Store Text Time

/-- Another agent holds the key that a registration brings. -/
def KeyTaken (store : AgentStore) (request : RegistrationRequest) : Prop :=
  ∃ id holder, store.get? id = some holder ∧ holder.publicKey = trim request.publicKey ∧
    holder.fingerprint ≠ trim request.fingerprint

/-- The fingerprint was registered with another token. -/
def OtherToken (store : AgentStore) (request : RegistrationRequest) : Prop :=
  ∃ id record, store.get? id = some record ∧
    record.fingerprint = trim request.fingerprint ∧ record.tokenId ≠ request.tokenId

/-- No agent has the fingerprint. -/
def UnknownFingerprint (store : AgentStore) (request : RegistrationRequest) : Prop :=
  ∀ id record, store.get? id = some record → record.fingerprint ≠ trim request.fingerprint

theorem keyTaken_of_found {store : AgentStore} (hstore : store.KeysIndexed)
    {request : RegistrationRequest} {holder : AgentRecord}
    (hfound : store.findByPublicKey? (trim request.publicKey) = some holder)
    (hother : holder.fingerprint ≠ trim request.fingerprint) : KeyTaken store request := by
  obtain ⟨⟨id, hheld⟩, hkey, _⟩ := (hstore.find_iff _ _).1 hfound
  exact ⟨id, holder, hheld, hkey, hother⟩

theorem not_keyTaken_of_found {store : AgentStore} (hstore : store.KeysIndexed)
    {request : RegistrationRequest} (hkey : trim request.publicKey ≠ "")
    (hown : ∀ holder, store.findByPublicKey? (trim request.publicKey) = some holder →
      holder.fingerprint = trim request.fingerprint) : ¬ KeyTaken store request := by
  rintro ⟨id, holder, hheld, hholder, hother⟩
  exact hother (hown holder ((hstore.find_iff _ _).2 ⟨⟨id, hheld⟩, hholder, hkey⟩))

theorem unknownFingerprint_of_notFound {store : AgentStore} (hstore : store.FingerprintsIndexed)
    {request : RegistrationRequest}
    (hnone : store.findByFingerprint? (trim request.fingerprint) = none) :
    UnknownFingerprint store request := by
  intro id record hrecord hsame
  have hfound := (hstore.find_iff _ _).2 ⟨⟨id, hrecord⟩, hsame⟩
  rw [hnone] at hfound
  cases hfound

theorem runRegistration_over {σ : Type} (repository : AgentRepository σ) (admission : Admission)
    (agentId : String) (now : Instant) (steps : Nat) (result : Except RegistryError AgentRecord)
    (agents : σ) :
    runRegistration repository admission agentId now steps (.over result) agents =
      (.over result, agents) := by
  induction steps with
  | zero => rfl
  | succ steps ih => exact ih

/-- How a registration that is let in ends if nothing comes between. -/
inductive Ending (request : RegistrationRequest) (agentId : String) (now : Instant)
    (store : AgentStore) : Except RegistryError AgentRecord → AgentStore → Prop
  | keyTaken (htaken : KeyTaken store request) :
      Ending request agentId now store (.error (.duplicateAgent .keyTaken)) store
  | otherToken (hfree : ¬ KeyTaken store request) (htoken : OtherToken store request) :
      Ending request agentId now store
        (.error (.duplicateAgent (.otherToken (trim request.fingerprint)))) store
  | first (next : AgentStore) (hfree : ¬ KeyTaken store request)
      (hunknown : UnknownFingerprint store request) (hnext : next.Indexed)
      (hadded : store.Added ((admissionOf request).newRecord agentId now) next) :
      Ending request agentId now store (.ok ((admissionOf request).newRecord agentId now)) next
  | again (previous : AgentRecord) (next : AgentStore) (hfree : ¬ KeyTaken store request)
      (hheld : store.get? previous.agentId = some previous)
      (hfingerprint : previous.fingerprint = trim request.fingerprint)
      (htoken : previous.tokenId = request.tokenId) (hnext : next.Indexed)
      (hreplaced : store.Replaced previous ((admissionOf request).refreshed previous now) next) :
      Ending request agentId now store (.ok ((admissionOf request).refreshed previous now)) next

/-- From a stage on, a registration ends in one of these ways. -/
def EndsFrom (request : RegistrationRequest) (agentId : String) (now : Instant)
    (store : AgentStore) (steps : Nat) (stage : RegistrationStage) : Prop :=
  ∃ result next, runRegistration AgentStore.repository (admissionOf request) agentId now steps
    stage store = (.over result, next) ∧ Ending request agentId now store result next

variable {request : RegistrationRequest} {agentId : String} {now : Instant} {store : AgentStore}

theorem Ending.endsFrom {result : Except RegistryError AgentRecord}
    (hending : Ending request agentId now store result store) (steps : Nat) :
    EndsFrom request agentId now store steps (.over result) :=
  ⟨result, store, runRegistration_over _ _ _ _ _ _ _, hending⟩

/-- It is enough to look at what the next step can do. -/
theorem endsFrom_succ (hstore : store.Indexed) {steps : Nat} {stage : RegistrationStage}
    (hnext : ∀ after next, Advance (admissionOf request) agentId now store stage after next →
      ∃ result final, runRegistration AgentStore.repository (admissionOf request) agentId now steps
        after next = (.over result, final) ∧ Ending request agentId now store result final) :
    EndsFrom request agentId now store (steps + 1) stage :=
  hnext _ _ (registrationStep_advance hstore.keys _ _ _ _)

/-- The only agent with the fingerprint is updated: it is there, and nobody else holds the key. -/
theorem endsFrom_update (hstore : store.Indexed) (hfree : ¬ KeyTaken store request)
    {previous : AgentRecord} (hheld : store.get? previous.agentId = some previous)
    (hfingerprint : previous.fingerprint = trim request.fingerprint)
    (htoken : previous.tokenId = request.tokenId) (steps : Nat) :
    EndsFrom request agentId now store (steps + 1)
      (.update ((admissionOf request).refreshed previous now)) := by
  apply endsFrom_succ hstore
  intro after next hstep
  cases hstep with
  | known stage record hstage hfound => rcases hstage with hstage | hstage <;> cases hstage
  | updated record found next hfound hown hreplaced =>
      change store.get? previous.agentId = some found at hfound
      rw [hheld] at hfound
      cases hfound
      refine ⟨_, next, runRegistration_over _ _ _ _ _ _ _, .again previous next hfree hheld
        hfingerprint htoken ?_ hreplaced⟩
      exact hreplaced.indexed hstore hheld rfl hown
  | forestalled stage record holder hstage hindex hother =>
      rcases hstage with hstage | hstage
      · cases hstage
      · cases hstage
        -- the holder of the key has the fingerprint too, so it is the agent itself
        obtain ⟨rival, hrival, hkey, _⟩ := (hstore.keys _ _).1 hindex
        have hsame : rival.fingerprint = trim request.fingerprint := by
          by_contra hdiffers
          exact hfree ⟨holder, rival, hrival, hkey, hdiffers⟩
        exact absurd (hstore.fingerprints.unique hrival hheld (hsame.trans hfingerprint.symm))
          (hother rfl)
  | gone record hnone =>
      change store.get? previous.agentId = none at hnone
      rw [hheld] at hnone
      cases hnone

theorem endsFrom_create (hstore : store.Indexed) (hfree : ¬ KeyTaken store request)
    (hunknown : UnknownFingerprint store request) (hfresh : store.get? agentId = none)
    (steps : Nat) :
    EndsFrom request agentId now store (steps + 1)
      (.create ((admissionOf request).newRecord agentId now)) := by
  apply endsFrom_succ hstore
  intro after next hstep
  cases hstep with
  | known stage record hstage hfound => rcases hstage with hstage | hstage <;> cases hstage
  | lost record holder hindex =>
      obtain ⟨rival, hrival, hsame⟩ := (hstore.fingerprints _ _).1 hindex
      exact absurd hsame (hunknown holder rival hrival)
  | created record next hfingerprint hkey hadded =>
      refine ⟨_, next, runRegistration_over _ _ _ _ _ _ _, .first next hfree hunknown ?_ hadded⟩
      exact hadded.indexed hstore hfresh hfingerprint hkey
  | forestalled stage record holder hstage hindex hother =>
      rcases hstage with hstage | hstage
      · cases hstage
        obtain ⟨rival, hrival, hkey, _⟩ := (hstore.keys _ _).1 hindex
        exact absurd ⟨holder, rival, hrival, hkey, hunknown holder rival hrival⟩ hfree
      · cases hstage

theorem endsFrom_checkFingerprint (hstore : store.Indexed) (hfree : ¬ KeyTaken store request)
    (hfresh : store.get? agentId = none) (steps : Nat) :
    EndsFrom request agentId now store (steps + 2) .checkFingerprint := by
  apply endsFrom_succ hstore
  intro after next hstep
  cases hstep with
  | unknown hnone =>
      exact endsFrom_create hstore hfree
        (unknownFingerprint_of_notFound hstore.fingerprints hnone) hfresh steps
  | known stage record hstage hfound =>
      obtain ⟨⟨id, hrecord⟩, hfingerprint⟩ := (hstore.fingerprints.find_iff _ _).1 hfound
      by_cases htoken : record.tokenId = request.tokenId
      · have hheld : store.get? record.agentId = some record := by
          rwa [hstore.named id record hrecord]
        have hrefresh : (admissionOf request).refresh record now =
            .update ((admissionOf request).refreshed record now) := if_neg (not_not.2 htoken)
        rw [hrefresh]
        exact endsFrom_update hstore hfree hheld hfingerprint htoken steps
      · have hrefresh : (admissionOf request).refresh record now =
            fail (.duplicateAgent (.otherToken record.fingerprint)) := if_pos htoken
        rw [hrefresh, hfingerprint]
        exact (Ending.otherToken hfree ⟨id, record, hrecord, hfingerprint, htoken⟩).endsFrom _
  | forestalled stage record holder hstage => rcases hstage with hstage | hstage <;> cases hstage

/-- A registration that is let in comes to an end within its calls. -/
theorem endsFrom_checkKey (hstore : store.Indexed) (hkey : trim request.publicKey ≠ "")
    (hfresh : store.get? agentId = none) :
    EndsFrom request agentId now store mostCalls .checkKey := by
  apply endsFrom_succ hstore
  intro after next hstep
  cases hstep with
  | keyTaken holder hfound hother =>
      exact (Ending.keyTaken (keyTaken_of_found hstore.keys hfound hother)).endsFrom _
  | keyPassed hown =>
      exact endsFrom_checkFingerprint hstore (not_keyTaken_of_found hstore.keys hkey hown) hfresh 2
  | known stage record hstage => rcases hstage with hstage | hstage <;> cases hstage
  | forestalled stage record holder hstage => rcases hstage with hstage | hstage <;> cases hstage

/-- Nothing about an agent has changed, whichever way it is looked up. -/
structure Untouched (store next : AgentStore) (id : String) : Prop where
  record : next.get? id = store.get? id
  publicKeyOf : next.publicKeyOf id = store.publicKeyOf id
  findByFingerprint : ∀ fingerprint record, record.agentId = id →
    (next.findByFingerprint? fingerprint = some record ↔
      store.findByFingerprint? fingerprint = some record)
  findByPublicKey : ∀ key record, record.agentId = id →
    (next.findByPublicKey? key = some record ↔ store.findByPublicKey? key = some record)

theorem Untouched.refl (store : AgentStore) (id : String) : Untouched store store id :=
  ⟨rfl, rfl, fun _ _ _ => Iff.rfl, fun _ _ _ => Iff.rfl⟩

theorem untouched_of_written {next : AgentStore} {record : AgentRecord} (hstore : store.Indexed)
    (hnext : next.Indexed)
    (hget : ∀ id, next.get? id = if id = record.agentId then some record else store.get? id)
    {id : String} (hother : record.agentId ≠ id) : Untouched store next id := by
  have hsame : next.get? id = store.get? id := by
    rw [hget, if_neg (Ne.symm hother)]
  have hheld : ∀ found : AgentRecord, found.agentId = id →
      ((∃ name, next.get? name = some found) ↔ ∃ name, store.get? name = some found) := by
    rintro found rfl
    constructor
    · rintro ⟨name, hfound⟩
      have hname := hnext.named name found hfound
      exact ⟨found.agentId, by rw [← hsame, hname, hfound]⟩
    · rintro ⟨name, hfound⟩
      have hname := hstore.named name found hfound
      exact ⟨found.agentId, by rw [hsame, hname, hfound]⟩
  refine ⟨hsame, by simp only [AgentStore.publicKeyOf, hsame], ?_, ?_⟩
  · intro fingerprint found howner
    rw [hnext.fingerprints.find_iff, hstore.fingerprints.find_iff, hheld found howner]
  · intro key found howner
    rw [hnext.keys.find_iff, hstore.keys.find_iff, hheld found howner]

theorem Ending.untouched {result : Except RegistryError AgentRecord} {next : AgentStore}
    (hending : Ending request agentId now store result next) (hstore : store.Indexed) {id : String}
    (hother : ∀ record, result = .ok record → record.agentId ≠ id) : Untouched store next id := by
  cases hending with
  | first next hfree hunknown hnext hadded =>
      exact untouched_of_written hstore hnext hadded.get (hother _ rfl)
  | again previous next hfree hheld hfingerprint htoken hnext hreplaced =>
      exact untouched_of_written hstore hnext hreplaced.get (hother _ rfl)
  | keyTaken htaken => exact .refl store id
  | otherToken hfree htoken => exact .refl store id

/-- A new agent has come in: one record, with one time for everything. -/
structure FirstRegistration (request : RegistrationRequest) (agentId : String) (now : Instant)
    (store : AgentStore) (record : AgentRecord) (next : AgentStore) : Prop where
  contents : record = ⟨agentId, trim request.fingerprint, trim request.publicKey,
    request.publicKeyType, activeStatus, request.tokenId, request.tags, now, now, now⟩
  free : store.get? agentId = none
  added : next.get? agentId = some record
  message : (registrationResponse record).message = "Agent successfully registered"

/-- An agent has come back: its key, the type of its key and its tags are replaced, and all else is
as it was, except for the time of the change. -/
structure LaterRegistration (request : RegistrationRequest) (now : Instant) (store : AgentStore)
    (previous record : AgentRecord) (next : AgentStore) : Prop where
  held : store.get? previous.agentId = some previous
  contents : record = { previous with
    publicKey := trim request.publicKey
    publicKeyType := request.publicKeyType
    tags := request.tags
    updatedAt := laterThan previous.updatedAt now }
  replaced : next.get? previous.agentId = some record
  later : previous.updatedAt < now ∨ previous.updatedAt < Instant.limit →
    previous.updatedAt < record.updatedAt
  message : previous.updatedAt < now ∨ previous.updatedAt < Instant.limit →
    (registrationResponse record).message = "Agent successfully re-registered"

theorem message_of_same {record : AgentRecord} (hsame : record.updatedAt = record.createdAt) :
    (registrationResponse record).message = "Agent successfully registered" := by
  have houtcome := (outcome_eq_registered_iff record).2 hsame
  simp only [registrationResponse, houtcome, RegistrationOutcome.message]

theorem message_of_later {record : AgentRecord} (hlater : record.createdAt < record.updatedAt) :
    (registrationResponse record).message = "Agent successfully re-registered" := by
  have hdiffers : record.createdAt ≠ record.updatedAt := Instant.ne_of_lt hlater
  simp only [registrationResponse, RegistrationOutcome.of, AgentRecord.isReregistered,
    RegistrationOutcome.message]
  simp [hdiffers]

theorem Ending.firstRegistration {record : AgentRecord} {next : AgentStore}
    (hending : Ending request agentId now store (.ok record) next)
    (hfresh : store.get? agentId = none) (hunknown : UnknownFingerprint store request) :
    FirstRegistration request agentId now store record next := by
  cases hending with
  | first next hfree hnone hnext hadded =>
      refine ⟨rfl, hfresh, ?_, message_of_same rfl⟩
      rw [hadded.get]
      exact if_pos rfl
  | again previous next hfree hheld hfingerprint htoken hnext hreplaced =>
      exact absurd hfingerprint (hunknown _ previous hheld)

theorem Ending.laterRegistration {record known : AgentRecord} {next : AgentStore} {id : String}
    (hending : Ending request agentId now store (.ok record) next) (hstore : store.Indexed)
    (hrecords : SoundRecords store) (hknown : store.get? id = some known)
    (hsame : known.fingerprint = trim request.fingerprint) :
    LaterRegistration request now store known record next := by
  cases hending with
  | first next hfree hunknown hnext hadded => exact absurd hsame (hunknown id known hknown)
  | again previous next hfree hheld hfingerprint htoken hnext hreplaced =>
      obtain rfl : id = previous.agentId :=
        hstore.fingerprints.unique hknown hheld (hsame.trans hfingerprint.symm)
      obtain rfl : previous = known := Option.some.inj (hheld.symm.trans hknown)
      have hsound := hrecords _ previous hheld
      refine ⟨hheld, ?_, ?_, lt_laterThan, ?_⟩
      · simp only [Admission.refreshed, admissionOf, hsound.status]
      · rw [hreplaced.get]
        exact if_pos rfl
      · intro hlater
        exact message_of_later
          (refreshed_dated hsound (lt_laterThan hlater) (admissionOf request))

/-- A registration is refused before it looks at the store, or runs to its end. -/
theorem register_cases (tokens : BootstrapTokens) (request : RegistrationRequest)
    {agentId : String} (now : Instant) {store : AgentStore} (hstore : store.Indexed)
    (hfresh : store.get? agentId = none) :
    (¬ WellFormed request ∧ register AgentStore.repository tokens request agentId now store =
      (.error (.validation (registrationViolations request)), store)) ∨
    (WellFormed request ∧ tokens.verify request.tokenId request.tokenKey = false ∧
      register AgentStore.repository tokens request agentId now store =
        (.error .invalidToken, store)) ∨
    (WellFormed request ∧ tokens.verify request.tokenId request.tokenKey = true ∧
      Ending request agentId now store
        (register AgentStore.repository tokens request agentId now store).1
        (register AgentStore.repository tokens request agentId now store).2) := by
  simp only [register]
  by_cases hrequest : WellFormed request
  · cases htoken : tokens.verify request.tokenId request.tokenKey with
    | false =>
        have hvalid := (validateRegistration_eq_ok_iff request).2 hrequest
        have hrefused : Admission.ofRequest tokens request = .error .invalidToken := by
          simp [Admission.ofRequest, hvalid, htoken]
        exact Or.inr (Or.inl ⟨hrequest, rfl, by rw [hrefused]⟩)
    | true =>
        have hadmitted := (ofRequest_eq_ok_iff tokens request _).2 ⟨hrequest, htoken, rfl⟩
        have hends : EndsFrom request agentId now store mostCalls .checkKey :=
          endsFrom_checkKey hstore hrequest.trim_publicKey_ne hfresh
        obtain ⟨result, next, hrun, hending⟩ := hends
        refine Or.inr (Or.inr ⟨hrequest, rfl, ?_⟩)
        simp only [hadmitted, hrun]
        exact hending
  · have hinvalid : validateRegistration request = .error (registrationViolations request) := by
      have hnot := mt (validateRegistration_eq_ok_iff request).1 hrequest
      have hsome := mt (checked_eq_ok_iff (registrationViolations request)).2 hnot
      simp [validateRegistration, checked, hsome]
    have hrefused : Admission.ofRequest tokens request =
        .error (.validation (registrationViolations request)) := by
      simp [Admission.ofRequest, hinvalid]
    exact Or.inl ⟨hrequest, by rw [hrefused]⟩

theorem Ending.get?_of_empty {result : Except RegistryError AgentRecord} {next : AgentStore}
    (hending : Ending request agentId now AgentStore.empty result next) :
    next.get? agentId = some ((admissionOf request).newRecord agentId now) := by
  have hnone : ∀ id record, AgentStore.empty.get? id ≠ some record := by
    intro id record hrecord
    cases hrecord
  cases hending with
  | keyTaken htaken =>
      obtain ⟨id, holder, hheld, _⟩ := htaken
      exact absurd hheld (hnone id holder)
  | otherToken hfree hother =>
      obtain ⟨id, record, hheld, _⟩ := hother
      exact absurd hheld (hnone id record)
  | first next hfree hunknown hnext hadded => exact (hadded.get agentId).trans (if_pos rfl)
  | again previous next hfree hheld => exact absurd hheld (hnone _ previous)

/-- In an empty store, a registration that is let in brings in its agent. -/
theorem get?_register_empty {tokens : BootstrapTokens} (hrequest : WellFormed request)
    (htoken : tokens.verify request.tokenId request.tokenKey = true) (agentId : String)
    (now : Instant) :
    (register AgentStore.repository tokens request agentId now AgentStore.empty).2.get? agentId =
      some ((admissionOf request).newRecord agentId now) := by
  have hunborn : AgentStore.empty.get? agentId = none := rfl
  rcases register_cases tokens request now AgentStore.indexed_empty hunborn with ⟨hinvalid, _⟩ |
    ⟨_, hbad, _⟩ | ⟨_, _, hending⟩
  · exact absurd hrequest hinvalid
  · rw [htoken] at hbad
    cases hbad
  · exact hending.get?_of_empty

section Uninterrupted

variable {ι : Type} [DecidableEq ι]

theorem Race.foldl_replicate (calls : ι → RegisterCall) (i : ι) (now : Instant) (steps : Nat)
    (race : Race ι) :
    (List.replicate steps (i, now)).foldl (Race.step calls) race =
      ⟨(runRegistration AgentStore.repository (calls i).admission (calls i).agentId now steps
          (race.stage i) race.agents).2,
        Function.update race.stage i
          (runRegistration AgentStore.repository (calls i).admission (calls i).agentId now steps
            (race.stage i) race.agents).1⟩ := by
  induction steps generalizing race with
  | zero => simp [runRegistration]
  | succ steps ih =>
      rw [List.replicate_succ, List.foldl_cons, ih]
      simp [Race.step, runRegistration]

/-- From its first stage on, a registration needs no more calls than the most to come to its end. -/
theorem runRegistration_firstStage (tokens : BootstrapTokens) (call : RegisterCall) (now : Instant)
    {store : AgentStore} (hstore : store.Indexed)
    (hunborn : (∀ result, call.firstStage tokens ≠ .over result) →
      store.get? call.agentId = none) :
    runRegistration AgentStore.repository call.admission call.agentId now mostCalls
        (call.firstStage tokens) store =
      (.over (register AgentStore.repository tokens call.request call.agentId now store).1,
        (register AgentStore.repository tokens call.request call.agentId now store).2) := by
  cases hadmitted : Admission.ofRequest tokens call.request with
  | error error =>
      have hstage : call.firstStage tokens = .over (.error error) := by
        simp only [RegisterCall.firstStage, hadmitted]
      simp only [hstage, runRegistration_over, register, hadmitted]
  | ok admission =>
      obtain ⟨hrequest, htoken, rfl⟩ := (ofRequest_eq_ok_iff _ _ _).1 hadmitted
      have hstage : call.firstStage tokens = .checkKey := by
        simp only [RegisterCall.firstStage, hadmitted]
      have hfresh : store.get? call.agentId = none := hunborn (by simp [hstage])
      have hends : EndsFrom call.request call.agentId now store mostCalls .checkKey :=
        endsFrom_checkKey hstore hrequest.trim_publicKey_ne hfresh
      obtain ⟨result, next, hrun, _⟩ := hends
      simp only [hstage, RegisterCall.admission, register, hadmitted, hrun]

/-- A registration that moves as often as it needs to while the others rest does what it would do
alone. So registrations that come one behind the other are races, too. -/
theorem Race.run_uninterrupted (tokens : BootstrapTokens) {calls : ι → RegisterCall}
    (hfresh : Function.Injective fun i => (calls i).agentId) (schedule : List (ι × Instant)) {i : ι}
    (hready : (Race.run tokens calls schedule).stage i = (calls i).firstStage tokens)
    (now : Instant) :
    let before := Race.run tokens calls schedule
    let answer := register AgentStore.repository tokens (calls i).request (calls i).agentId now
      before.agents
    Race.run tokens calls (schedule ++ List.replicate mostCalls (i, now)) =
      ⟨answer.2, Function.update before.stage i (.over answer.1)⟩ := by
  intro before answer
  have hrace := Race.run_invariant tokens hfresh schedule
  have hunborn := hrace.unborn i
  rw [hready] at hunborn
  have hsplit : Race.run tokens calls (schedule ++ List.replicate mostCalls (i, now)) =
      (List.replicate mostCalls (i, now)).foldl (Race.step calls) before := List.foldl_append
  rw [hsplit, Race.foldl_replicate, hready,
    runRegistration_firstStage tokens (calls i) now hrace.indexed hunborn]

/-- The first of all registrations gets its agent, if it is let in. -/
theorem Race.run_first (tokens : BootstrapTokens) {calls : ι → RegisterCall}
    (hfresh : Function.Injective fun i => (calls i).agentId) {i : ι}
    (hrequest : WellFormed (calls i).request)
    (htoken : tokens.verify (calls i).request.tokenId (calls i).request.tokenKey = true)
    (now : Instant) :
    (Race.run tokens calls (List.replicate mostCalls (i, now))).agents.get? (calls i).agentId =
      some ((calls i).admission.newRecord (calls i).agentId now) := by
  have hempty : (Race.run tokens calls []).agents = AgentStore.empty := rfl
  have hready : (Race.run tokens calls []).stage i = (calls i).firstStage tokens := rfl
  have hfirst := get?_register_empty hrequest htoken (calls i).agentId now
  have hrun := congrArg Race.agents (Race.run_uninterrupted tokens hfresh [] hready now)
  rw [List.nil_append] at hrun
  dsimp only at hrun
  rw [hrun, hempty, RegisterCall.admission]
  exact hfirst

end Uninterrupted

/-- What a registration answers, and what it does to the store. -/
structure Decided (tokens : BootstrapTokens) (request : RegistrationRequest) (agentId : String)
    (now : Instant) (store : AgentStore) (result : Except RegistryError AgentRecord)
    (next : AgentStore) : Prop where
  /-- Wrong fields come first, and all of them are reported. -/
  validation : ∀ violations, result = .error (.validation violations) ↔
    ¬ WellFormed request ∧ violations = registrationViolations request
  /-- Then the token. -/
  invalidToken : result = .error .invalidToken ↔
    WellFormed request ∧ tokens.verify request.tokenId request.tokenKey = false
  /-- Then another agent with the key, or another token for the fingerprint. -/
  duplicateAgent : (∃ cause, result = .error (.duplicateAgent cause)) ↔
    WellFormed request ∧ tokens.verify request.tokenId request.tokenKey = true ∧
      (KeyTaken store request ∨ OtherToken store request)
  /-- All else succeeds. -/
  success : (∃ record, result = .ok record) ↔
    WellFormed request ∧ tokens.verify request.tokenId request.tokenKey = true ∧
      ¬ KeyTaken store request ∧ ¬ OtherToken store request
  first : ∀ record, result = .ok record → UnknownFingerprint store request →
    FirstRegistration request agentId now store record next
  later : ∀ record, result = .ok record → ∀ id known, store.get? id = some known →
    known.fingerprint = trim request.fingerprint →
    LaterRegistration request now store known record next
  /-- A registration that fails changes nothing. -/
  refused : ∀ error, result = .error error → next = store
  /-- Only the agent that the answer is about can have changed. -/
  others : ∀ id, (∀ record, result = .ok record → record.agentId ≠ id) → Untouched store next id

theorem Decided.of_invalid (tokens : BootstrapTokens) (agentId : String) (now : Instant)
    (store : AgentStore) (hrequest : ¬ WellFormed request) :
    Decided tokens request agentId now store
      (.error (.validation (registrationViolations request))) store where
  validation := by simp [hrequest, eq_comm]
  invalidToken := by simp [hrequest]
  duplicateAgent := by simp [hrequest]
  success := by simp [hrequest]
  first := by simp
  later := by simp
  refused := by simp
  others := fun id _ => .refl store id

theorem Decided.of_badToken {tokens : BootstrapTokens} (agentId : String) (now : Instant)
    (store : AgentStore) (hrequest : WellFormed request)
    (htoken : tokens.verify request.tokenId request.tokenKey = false) :
    Decided tokens request agentId now store (.error .invalidToken) store where
  validation := by simp [hrequest]
  invalidToken := by simp [hrequest, htoken]
  duplicateAgent := by simp [htoken]
  success := by simp [htoken]
  first := by simp
  later := by simp
  refused := by simp
  others := fun id _ => .refl store id

/-- A record that was registered with another token is not an unknown one. -/
theorem not_otherToken_of_unknown (hunknown : UnknownFingerprint store request) :
    ¬ OtherToken store request := by
  rintro ⟨id, record, hrecord, hsame, _⟩
  exact hunknown id record hrecord hsame

theorem not_otherToken_of_own (hstore : store.FingerprintsIndexed) {previous : AgentRecord}
    (hheld : store.get? previous.agentId = some previous)
    (hfingerprint : previous.fingerprint = trim request.fingerprint)
    (htoken : previous.tokenId = request.tokenId) : ¬ OtherToken store request := by
  rintro ⟨id, record, hrecord, hsame, hother⟩
  obtain rfl : id = previous.agentId :=
    hstore.unique hrecord hheld (hsame.trans hfingerprint.symm)
  rw [hheld] at hrecord
  cases hrecord
  exact hother htoken

/-- Both questions to the store are answered no exactly when a registration that is let in succeeds. -/
theorem Ending.verdict {result : Except RegistryError AgentRecord} {next : AgentStore}
    (hending : Ending request agentId now store result next) (hstore : store.Indexed) :
    ((∃ cause, result = .error (.duplicateAgent cause)) ∧ next = store ∧
      (KeyTaken store request ∨ OtherToken store request)) ∨
    ((∃ record, result = .ok record) ∧ ¬ KeyTaken store request ∧ ¬ OtherToken store request) := by
  cases hending with
  | keyTaken htaken => exact Or.inl ⟨⟨_, rfl⟩, rfl, Or.inl htaken⟩
  | otherToken hfree htoken => exact Or.inl ⟨⟨_, rfl⟩, rfl, Or.inr htoken⟩
  | first next hfree hunknown hnext hadded =>
      exact Or.inr ⟨⟨_, rfl⟩, hfree, not_otherToken_of_unknown hunknown⟩
  | again previous next hfree hheld hfingerprint htoken hnext hreplaced =>
      exact Or.inr ⟨⟨_, rfl⟩, hfree,
        not_otherToken_of_own hstore.fingerprints hheld hfingerprint htoken⟩

theorem Ending.decided {tokens : BootstrapTokens} {result : Except RegistryError AgentRecord}
    {next : AgentStore} (hending : Ending request agentId now store result next)
    (hstore : store.Indexed) (hrecords : SoundRecords store) (hfresh : store.get? agentId = none)
    (hrequest : WellFormed request)
    (htoken : tokens.verify request.tokenId request.tokenKey = true) :
    Decided tokens request agentId now store result next := by
  have hothers : ∀ id, (∀ record, result = .ok record → record.agentId ≠ id) →
      Untouched store next id := fun id => hending.untouched hstore
  rcases hending.verdict hstore with ⟨⟨cause, rfl⟩, rfl, hdouble⟩ | ⟨⟨record, rfl⟩, hfree, hown⟩
  · have hnot : ¬ (¬ KeyTaken next request ∧ ¬ OtherToken next request) := by
      rintro ⟨hfree, hown⟩
      exact hdouble.elim hfree hown
    refine ⟨by simp [hrequest], by simp [htoken], by simp [hrequest, htoken, hdouble], ?_,
      by simp, by simp, by simp, hothers⟩
    simp [hrequest, htoken, hnot]
  · refine ⟨by simp [hrequest], by simp [htoken], by simp [hfree, hown],
      by simp [hrequest, htoken, hfree, hown], ?_, ?_, by simp, hothers⟩
    · rintro _ ⟨⟩ hunknown
      exact hending.firstRegistration hfresh hunknown
    · rintro _ ⟨⟩ id known hknown hsame
      exact hending.laterRegistration hstore hrecords hknown hsame

/-- Whatever other registrations have done to the store before, or have left half done, a
registration that nothing comes between is decided by its fields, its token, the holder of its key
and the token of its fingerprint, in this order. -/
theorem registration_decided {ι : Type} [DecidableEq ι] (tokens : BootstrapTokens)
    {calls : ι → RegisterCall} (hfresh : Function.Injective fun i => (calls i).agentId)
    (schedule : List (ι × Instant)) (request : RegistrationRequest) {agentId : String}
    (hnew : (Race.run tokens calls schedule).agents.get? agentId = none) (now : Instant) :
    Decided tokens request agentId now (Race.run tokens calls schedule).agents
      (register AgentStore.repository tokens request agentId now
        (Race.run tokens calls schedule).agents).1
      (register AgentStore.repository tokens request agentId now
        (Race.run tokens calls schedule).agents).2 := by
  have hrace := Race.run_invariant tokens hfresh schedule
  rcases register_cases tokens request now hrace.indexed hnew with ⟨hrequest, hresult⟩ |
    ⟨hrequest, htoken, hresult⟩ | ⟨hrequest, htoken, hending⟩
  · rw [hresult]
    exact .of_invalid tokens agentId now _ hrequest
  · rw [hresult]
    exact .of_badToken agentId now _ hrequest htoken
  · exact hending.decided hrace.indexed hrace.records hnew hrequest htoken

/-- A host that is under way to its agent and asks again meanwhile. -/
theorem registration_decided_amid_race :
    let request : RegistrationRequest := ⟨"host-1", "tok", "secret",
      "MBowDQYJKoZIhvcNAQEBBQADCQAwBgIBBQIBAw==", "rsa", []⟩
    let calls : Bool → RegisterCall := fun i => ⟨request, if i then "agent-1" else "agent-2"⟩
    let schedule : List (Bool × Instant) :=
      [true, false, true, false, true].map fun i => (i, Instant.epoch)
    let tokens := BootstrapTokens.ofTokens [⟨"tok", "secret"⟩]
    let store := (Race.run tokens calls schedule).agents
    (Function.Injective fun i => (calls i).agentId) ∧ store.get? "agent-3" = none ∧
      Decided tokens request "agent-3" Instant.epoch store
        (register AgentStore.repository tokens request "agent-3" Instant.epoch store).1
        (register AgentStore.repository tokens request "agent-3" Instant.epoch store).2 := by
  intro request calls schedule tokens store
  have hfresh : Function.Injective fun i => (calls i).agentId := by
    intro i j hsame
    cases i <;> cases j <;> simp_all [calls]
  have hnew : store.get? "agent-3" = none := by
    apply (Race.run_invariant tokens hfresh schedule).stranger
    intro i
    cases i <;> simp [calls]
  exact ⟨hfresh, hnew, registration_decided tokens hfresh schedule request hnew Instant.epoch⟩

end Muster.ControlPlane
