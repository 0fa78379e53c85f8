import Muster.Proofs.AdmittedRequest
import Muster.Proofs.AgentIndex
import Muster.Proofs.LaterInstant
/-!
One step of a registration. Whatever others have done to the store since its last step, a
registration keeps the store in order, and what it knows of the store stays true whatever others do
next.
-/
namespace Muster.ControlPlane

open Auth Store Text Time

/-- What never changes of the record of an agent. -/
def identityOf (record : AgentRecord) : String × String × String × Instant × Instant :=
  (record.agentId, record.fingerprint, record.tokenId, record.registeredAt, record.createdAt)

theorem identityOf_eq_iff (record other : AgentRecord) :
    identityOf record = identityOf other ↔
      record.agentId = other.agentId ∧ record.fingerprint = other.fingerprint ∧
        record.tokenId = other.tokenId ∧ record.registeredAt = other.registeredAt ∧
          record.createdAt = other.createdAt := by
  simp only [identityOf, Prod.mk.injEq]

/-- A record as registrations leave it: with a key, active, and changed no earlier than created. -/
structure SoundRecord (record : AgentRecord) : Prop where
  publicKey : record.publicKey ≠ ""
  status : record.status = activeStatus
  registeredAt : record.registeredAt = record.createdAt
  updatedAt : record.createdAt < record.updatedAt ∨ record.updatedAt = record.createdAt

/-- All that a step can do. Only a creation or an update that succeeds changes the store. -/
inductive Advance (admission : Admission) (agentId : String) (now : Instant)
    (store : AgentStore) : RegistrationStage → RegistrationStage → AgentStore → Prop
  | keyTaken (holder : AgentRecord)
      (hfound : store.findByPublicKey? admission.publicKey = some holder)
      (hother : holder.fingerprint ≠ admission.fingerprint) :
      Advance admission agentId now store .checkKey (fail (.duplicateAgent .keyTaken)) store
  | keyPassed
      (hown : ∀ holder, store.findByPublicKey? admission.publicKey = some holder →
        holder.fingerprint = admission.fingerprint) :
      Advance admission agentId now store .checkKey .checkFingerprint store
  | unknown (hnone : store.findByFingerprint? admission.fingerprint = none) :
      Advance admission agentId now store .checkFingerprint
        (.create (admission.newRecord agentId now)) store
  | known (stage : RegistrationStage) (record : AgentRecord)
      (hstage : stage = .checkFingerprint ∨ stage = .findWinner)
      (hfound : store.findByFingerprint? admission.fingerprint = some record) :
      Advance admission agentId now store stage (admission.refresh record now) store
  | noWinner (hnone : store.findByFingerprint? admission.fingerprint = none) :
      Advance admission agentId now store .findWinner (fail (.store .notFound)) store
  | lost (record : AgentRecord) (holder : String)
      (hfingerprint : store.byFingerprint.get? record.fingerprint = some holder) :
      Advance admission agentId now store (.create record) .findWinner store
  | created (record : AgentRecord) (next : AgentStore)
      (hfingerprint : store.byFingerprint.get? record.fingerprint = none)
      (hkey : record.publicKey ≠ "" → store.byPublicKey.get? record.publicKey = none)
      (hadded : store.Added record next) :
      Advance admission agentId now store (.create record) (.over (.ok record)) next
  | updated (record previous : AgentRecord) (next : AgentStore)
      (hprevious : store.get? record.agentId = some previous)
      (hown : ∀ holder, record.publicKey ≠ "" →
        store.byPublicKey.get? record.publicKey = some holder → holder = record.agentId)
      (hreplaced : store.Replaced previous record next) :
      Advance admission agentId now store (.update record) (.over (.ok record)) next
  | forestalled (stage : RegistrationStage) (record : AgentRecord) (holder : String)
      (hstage : stage = .create record ∨ stage = .update record)
      (hheld : store.byPublicKey.get? record.publicKey = some holder)
      (hother : stage = .update record → holder ≠ record.agentId) :
      Advance admission agentId now store stage (fail (.duplicateAgent .keyTaken)) store
  | gone (record : AgentRecord) (hnone : store.get? record.agentId = none) :
      Advance admission agentId now store (.update record) (fail (.store .notFound)) store
  | settled (result : Except RegistryError AgentRecord) :
      Advance admission agentId now store (.over result) (.over result) store

/-- A step does one of these things. -/
theorem registrationStep_advance {store : AgentStore} (hstore : store.KeysIndexed)
    (admission : Admission) (agentId : String) (now : Instant) (stage : RegistrationStage) :
    Advance admission agentId now store stage
      (registrationStep AgentStore.repository admission agentId now stage store).1
      (registrationStep AgentStore.repository admission agentId now stage store).2 := by
  cases stage with
  | checkKey =>
      simp only [registrationStep, RegistrationStage.call?, perform, AgentStore.repository,
        foundReply]
      cases hfound : store.findByPublicKey? admission.publicKey with
      | none => exact .keyPassed (by simp [hfound])
      | some holder =>
          by_cases hother : holder.fingerprint = admission.fingerprint
          · simp only [Admission.next, hother, ne_eq, not_true_eq_false, ↓reduceIte]
            refine .keyPassed ?_
            intro found hsame
            rw [hfound] at hsame
            cases hsame
            exact hother
          · simp only [Admission.next, ne_eq, hother, not_false_eq_true, ↓reduceIte]
            exact .keyTaken holder hfound hother
  | checkFingerprint =>
      simp only [registrationStep, RegistrationStage.call?, perform, AgentStore.repository,
        foundReply]
      cases hfound : store.findByFingerprint? admission.fingerprint with
      | none => exact .unknown hfound
      | some record => exact .known _ record (Or.inl rfl) hfound
  | findWinner =>
      simp only [registrationStep, RegistrationStage.call?, perform, AgentStore.repository,
        foundReply]
      cases hfound : store.findByFingerprint? admission.fingerprint with
      | none => exact .noWinner hfound
      | some record => exact .known _ record (Or.inr rfl) hfound
  | create record =>
      simp only [registrationStep, RegistrationStage.call?, perform, AgentStore.repository]
      rcases store.create_cases record with ⟨holder, hheld, hcreate⟩ |
        ⟨holder, _, _, hheld, hcreate⟩ | ⟨hfingerprint, hkey, next, hcreate, hadded⟩
      · simp only [hcreate, writtenReply]
        exact .lost record holder hheld
      · simp only [hcreate, writtenReply]
        exact .forestalled _ record holder (Or.inl rfl) hheld (by simp)
      · simp only [hcreate, writtenReply]
        exact .created record next hfingerprint hkey hadded
  | update record =>
      simp only [registrationStep, RegistrationStage.call?, perform, AgentStore.repository]
      rcases hstore.update_cases record with ⟨hnone, hupdate⟩ |
        ⟨holder, hother, _, hheld, _, hupdate⟩ | ⟨previous, next, hprevious, hown, hupdate, hnext⟩
      · simp only [hupdate, writtenReply]
        exact .gone record hnone
      · simp only [hupdate, writtenReply]
        exact .forestalled _ record holder (Or.inr rfl) hheld (fun _ => hother)
      · simp only [hupdate, writtenReply]
        exact .updated record previous next hprevious hown hnext
  | «over» result => exact .settled result

/-- The records of a store are sound. -/
def SoundRecords (store : AgentStore) : Prop :=
  ∀ id record, store.get? id = some record → SoundRecord record

/-- Every agent of a store is still there in a later one. -/
def Keeps (store next : AgentStore) : Prop :=
  ∀ id record, store.get? id = some record →
    ∃ later, next.get? id = some later ∧ identityOf later = identityOf record

theorem Keeps.refl (store : AgentStore) : Keeps store store :=
  fun _ record hrecord => ⟨record, hrecord, rfl⟩

theorem Keeps.trans {first second third : AgentStore} (hfirst : Keeps first second)
    (hsecond : Keeps second third) : Keeps first third := by
  intro id record hrecord
  obtain ⟨middle, hmiddle, hsame⟩ := hfirst id record hrecord
  obtain ⟨later, hlater, hagain⟩ := hsecond id middle hmiddle
  exact ⟨later, hlater, hagain.trans hsame⟩

/-- A record that the registration has written or is about to write belongs to an agent of the
store, and to the fingerprint that was asked for. -/
structure Backed (admission : Admission) (store : AgentStore) (record : AgentRecord) : Prop where
  held : ∃ held, store.get? record.agentId = some held ∧ identityOf held = identityOf record
  fingerprint : record.fingerprint = admission.fingerprint
  sound : SoundRecord record

theorem Backed.mono {admission : Admission} {store next : AgentStore} {record : AgentRecord}
    (hbacked : Backed admission store record) (hkeeps : Keeps store next) :
    Backed admission next record := by
  obtain ⟨held, hheld, hsame⟩ := hbacked.held
  obtain ⟨later, hlater, hagain⟩ := hkeeps record.agentId held hheld
  exact ⟨⟨later, hlater, hagain.trans hsame⟩, hbacked.fingerprint, hbacked.sound⟩

/-- What a registration knows at each stage. All of it is about agents that are there, so that no
other registration can make it false. -/
def StageSound (admission : Admission) (agentId : String) (store : AgentStore) :
    RegistrationStage → Prop
  | .checkKey | .checkFingerprint => True
  | .create record => ∃ now, record = admission.newRecord agentId now
  | .findWinner => ∃ id record, store.get? id = some record ∧
      record.fingerprint = admission.fingerprint
  | .update record => Backed admission store record
  | .over (.ok record) => Backed admission store record ∧
      (record.agentId = agentId → record.updatedAt = record.createdAt)
  | .over (.error error) => ∀ refusal, error ≠ .store refusal

theorem StageSound.mono {admission : Admission} {agentId : String} {store next : AgentStore}
    {stage : RegistrationStage} (hstage : StageSound admission agentId store stage)
    (hkeeps : Keeps store next) : StageSound admission agentId next stage := by
  cases stage with
  | checkKey | checkFingerprint => trivial
  | create record => exact hstage
  | findWinner =>
      obtain ⟨id, record, hrecord, hfingerprint⟩ := hstage
      obtain ⟨later, hlater, hsame⟩ := hkeeps id record hrecord
      rw [identityOf_eq_iff] at hsame
      exact ⟨id, later, hlater, hsame.2.1.trans hfingerprint⟩
  | update record => exact Backed.mono hstage hkeeps
  | «over» result =>
      cases result with
      | error error => exact hstage
      | ok record => exact ⟨hstage.1.mono hkeeps, hstage.2⟩

theorem newRecord_sound {admission : Admission} (hkey : admission.publicKey ≠ "")
    (agentId : String) (now : Instant) : SoundRecord (admission.newRecord agentId now) :=
  ⟨hkey, rfl, rfl, Or.inr rfl⟩

/-- A refreshed record is no older than the one that it was made from. -/
theorem refreshed_sound {admission : Admission} (hkey : admission.publicKey ≠ "")
    {record : AgentRecord} (hrecord : SoundRecord record) (now : Instant) :
    SoundRecord (admission.refreshed record now) := by
  refine ⟨hkey, rfl, hrecord.registeredAt, ?_⟩
  change record.createdAt < laterThan record.updatedAt now ∨
    laterThan record.updatedAt now = record.createdAt
  rcases laterThan_cases record.updatedAt now with hlater | hsame
  · rcases hrecord.updatedAt with hupdated | hupdated
    · exact Or.inl (Instant.lt_trans hupdated hlater)
    · exact Or.inl (hupdated ▸ hlater)
  · rw [hsame]
    exact hrecord.updatedAt

theorem refresh_stageSound {admission : Admission} (hkey : admission.publicKey ≠ "")
    (agentId : String) {store : AgentStore} (hnamed : store.Named) (hrecords : SoundRecords store)
    {id : String} {record : AgentRecord} (hrecord : store.get? id = some record)
    (hfingerprint : record.fingerprint = admission.fingerprint) (now : Instant) :
    StageSound admission agentId store (admission.refresh record now) := by
  simp only [Admission.refresh]
  split
  · simp [fail, StageSound]
  · refine ⟨⟨record, ?_, rfl⟩, hfingerprint, refreshed_sound hkey (hrecords id record hrecord) now⟩
    change store.get? record.agentId = some record
    rwa [hnamed id record hrecord]

/-- What holds between two steps of a registration. -/
structure StepInvariant (admission : Admission) (agentId : String) (store : AgentStore)
    (stage : RegistrationStage) : Prop where
  indexed : store.Indexed
  records : SoundRecords store
  knows : StageSound admission agentId store stage
  unborn : (∀ result, stage ≠ .over result) → store.get? agentId = none

/-- What holds of all records of a store and of one more holds of all records behind its writing. -/
theorem forall_of_inserted {store next : AgentStore} {record : AgentRecord}
    {property : AgentRecord → Prop}
    (hstore : ∀ id found, store.get? id = some found → property found) (hrecord : property record)
    (hget : ∀ id, next.get? id = if id = record.agentId then some record else store.get? id) :
    ∀ id found, next.get? id = some found → property found := by
  intro id found hfound
  rw [hget] at hfound
  split at hfound
  · cases hfound
    exact hrecord
  · exact hstore id found hfound

theorem keeps_of_added {store next : AgentStore} {record : AgentRecord}
    (hadded : store.Added record next) (hfresh : store.get? record.agentId = none) :
    Keeps store next := by
  intro id found hfound
  have hother : id ≠ record.agentId := by
    rintro rfl
    rw [hfresh] at hfound
    cases hfound
  exact ⟨found, by rw [hadded.get, if_neg hother, hfound], rfl⟩

theorem keeps_of_replaced {store next : AgentStore} {previous record : AgentRecord}
    (hreplaced : store.Replaced previous record next)
    (hprevious : store.get? record.agentId = some previous)
    (hsame : identityOf record = identityOf previous) : Keeps store next := by
  intro id found hfound
  rw [hreplaced.get]
  by_cases hid : id = record.agentId
  · subst hid
    rw [hprevious] at hfound
    cases hfound
    exact ⟨record, if_pos rfl, hsame⟩
  · exact ⟨found, by rw [if_neg hid, hfound], rfl⟩

/-- A record that a registration writes back has the identity of the one that it replaces, however
often others have replaced that one since it was read. -/
theorem Backed.identity {admission : Admission} {store : AgentStore}
    {record previous : AgentRecord} (hbacked : Backed admission store record)
    (hprevious : store.get? record.agentId = some previous) :
    identityOf record = identityOf previous := by
  obtain ⟨held, hheld, hsame⟩ := hbacked.held
  rw [hprevious] at hheld
  cases hheld
  exact hsame.symm

variable {admission : Admission} {agentId : String} {now : Instant} {store next : AgentStore}
  {stage after : RegistrationStage}

theorem Advance.keeps (hstep : Advance admission agentId now store stage after next)
    (hbefore : StepInvariant admission agentId store stage) : Keeps store next := by
  cases hstep with
  | created record next hfingerprint hkey hadded =>
      obtain ⟨read, rfl⟩ := hbefore.knows
      exact keeps_of_added hadded (hbefore.unborn (by simp))
  | updated record previous next hprevious hown hreplaced =>
      exact keeps_of_replaced hreplaced hprevious (Backed.identity hbefore.knows hprevious)
  | _ => exact .refl store

/-- The only agent that a step can bring in is the registration's own. -/
theorem Advance.newcomer (hstep : Advance admission agentId now store stage after next)
    (hbefore : StepInvariant admission agentId store stage) {id : String}
    (hnone : store.get? id = none) (hsome : next.get? id ≠ none) :
    id = agentId ∧ ∃ first, after = .over (.ok first) ∧ first.agentId = agentId := by
  cases hstep with
  | created record next hfingerprint hkey hadded =>
      obtain ⟨read, rfl⟩ := hbefore.knows
      rw [hadded.get] at hsome
      by_cases hid : id = agentId
      · exact ⟨hid, _, rfl, rfl⟩
      · exact absurd hnone (by simpa [Admission.newRecord, hid] using hsome)
  | updated record previous next hprevious hown hreplaced =>
      rw [hreplaced.get] at hsome
      by_cases hid : id = record.agentId
      · rw [hid, hprevious] at hnone
        cases hnone
      · exact absurd hnone (by simpa [hid] using hsome)
  | _ => exact absurd hnone hsome

theorem StepInvariant.created {read : Instant} (hkey : admission.publicKey ≠ "")
    (hbefore : StepInvariant admission agentId store
      (.create (admission.newRecord agentId read)))
    (hfingerprint : store.byFingerprint.get? admission.fingerprint = none)
    (hfree : admission.publicKey ≠ "" → store.byPublicKey.get? admission.publicKey = none)
    (hadded : store.Added (admission.newRecord agentId read) next) :
    StepInvariant admission agentId next
      (.over (.ok (admission.newRecord agentId read))) := by
  have hfresh : store.get? agentId = none := hbefore.unborn (by simp)
  have hnew : next.get? agentId = some (admission.newRecord agentId read) := by
    rw [hadded.get]
    exact if_pos rfl
  have hsound := newRecord_sound hkey agentId read
  exact ⟨hadded.indexed hbefore.indexed hfresh hfingerprint hfree,
    forall_of_inserted hbefore.records hsound hadded.get,
    ⟨⟨⟨_, hnew, rfl⟩, rfl, hsound⟩, fun _ => rfl⟩, fun hopen => absurd rfl (hopen _)⟩

theorem StepInvariant.updated {record previous : AgentRecord}
    (hbefore : StepInvariant admission agentId store (.update record))
    (hprevious : store.get? record.agentId = some previous)
    (hown : ∀ holder, record.publicKey ≠ "" →
      store.byPublicKey.get? record.publicKey = some holder → holder = record.agentId)
    (hreplaced : store.Replaced previous record next) :
    StepInvariant admission agentId next (.over (.ok record)) := by
  have hbacked : Backed admission store record := hbefore.knows
  have hidentity := hbacked.identity hprevious
  have hkeeps := keeps_of_replaced hreplaced hprevious hidentity
  have hfresh : store.get? agentId = none := hbefore.unborn (by simp)
  rw [identityOf_eq_iff] at hidentity
  refine ⟨hreplaced.indexed hbefore.indexed hprevious hidentity.2.1 hown,
    forall_of_inserted hbefore.records hbacked.sound hreplaced.get,
    ⟨hbacked.mono hkeeps, ?_⟩, fun hopen => absurd rfl (hopen _)⟩
  intro hsame
  rw [hsame, hfresh] at hprevious
  cases hprevious

/-- A step that leaves the store alone has only to answer for what is known next. -/
theorem StepInvariant.of_read (hbefore : StepInvariant admission agentId store stage)
    (hopen : ∀ result, stage ≠ .over result) (hknows : StageSound admission agentId store after) :
    StepInvariant admission agentId store after :=
  ⟨hbefore.indexed, hbefore.records, hknows, fun _ => hbefore.unborn hopen⟩

/-- Every step keeps the store in order and knows no more than is true. -/
theorem Advance.invariant (hkey : admission.publicKey ≠ "")
    (hstep : Advance admission agentId now store stage after next)
    (hbefore : StepInvariant admission agentId store stage) :
    StepInvariant admission agentId next after := by
  cases hstep with
  | keyTaken holder hfound hother => exact hbefore.of_read (by simp) (by simp [fail, StageSound])
  | keyPassed hown => exact hbefore.of_read (by simp) trivial
  | unknown hnone => exact hbefore.of_read (by simp) ⟨now, rfl⟩
  | known stage record hstage hfound =>
      obtain ⟨⟨id, hrecord⟩, hfingerprint⟩ :=
        (hbefore.indexed.fingerprints.find_iff _ _).1 hfound
      refine hbefore.of_read ?_ (refresh_stageSound hkey agentId hbefore.indexed.named
        hbefore.records hrecord hfingerprint now)
      rcases hstage with rfl | rfl <;> simp
  | noWinner hnone =>
      obtain ⟨id, record, hrecord, hfingerprint⟩ := hbefore.knows
      have hfound := (hbefore.indexed.fingerprints.find_iff admission.fingerprint record).2
        ⟨⟨id, hrecord⟩, hfingerprint⟩
      rw [hnone] at hfound
      cases hfound
  | lost record holder hfingerprint =>
      obtain ⟨read, rfl⟩ := hbefore.knows
      obtain ⟨winner, hwinner, hsame⟩ := (hbefore.indexed.fingerprints _ _).1 hfingerprint
      exact hbefore.of_read (by simp) ⟨holder, winner, hwinner, hsame⟩
  | created record next hfingerprint hfree hadded =>
      obtain ⟨read, rfl⟩ := hbefore.knows
      exact hbefore.created hkey hfingerprint hfree hadded
  | updated record previous next hprevious hown hreplaced =>
      exact hbefore.updated hprevious hown hreplaced
  | forestalled stage record holder hstage hheld hother =>
      refine hbefore.of_read ?_ (by simp [fail, StageSound])
      rcases hstage with rfl | rfl <;> simp
  | gone record hnone =>
      obtain ⟨held, hheld, _⟩ := Backed.held hbefore.knows
      rw [hnone] at hheld
      cases hheld
  | settled result => exact hbefore

/-- Every stored time has a later one. -/
def TimesBelowLimit (store : AgentStore) : Prop :=
  ∀ id record, store.get? id = some record → record.updatedAt < Instant.limit

/-- A record that is written back, or that belongs to an agent that was there before, shows that it
was changed. -/
def Dated (agentId : String) : RegistrationStage → Prop
  | .update record => record.createdAt < record.updatedAt
  | .over (.ok record) => record.agentId ≠ agentId → record.createdAt < record.updatedAt
  | _ => True

theorem refreshed_dated {record : AgentRecord} (hrecord : SoundRecord record)
    (hlater : record.updatedAt < laterThan record.updatedAt now) (admission : Admission) :
    record.createdAt < (admission.refreshed record now).updatedAt := by
  rcases hrecord.updatedAt with hupdated | hupdated
  · exact Instant.lt_trans hupdated hlater
  · exact hupdated ▸ hlater

theorem Advance.dated (hstep : Advance admission agentId now store stage after next)
    (hlimit : TimesBelowLimit store) (hbefore : StepInvariant admission agentId store stage)
    (hdated : Dated agentId stage) : Dated agentId after := by
  cases hstep with
  | known stage record hstage hfound =>
      obtain ⟨⟨id, hrecord⟩, _⟩ := (hbefore.indexed.fingerprints.find_iff _ _).1 hfound
      simp only [Admission.refresh]
      split
      · trivial
      · have hlater : record.updatedAt < laterThan record.updatedAt now :=
          lt_laterThan (Or.inr (hlimit id record hrecord))
        exact refreshed_dated (hbefore.records id record hrecord) hlater admission
  | created record next hfingerprint hkey hadded =>
      obtain ⟨read, rfl⟩ := hbefore.knows
      exact fun hother => absurd rfl hother
  | updated record previous next hprevious hown hreplaced => exact fun _ => hdated
  | settled result => exact hdated
  | _ => trivial

/-- The only record that a registration can be about to write behind a search is the refreshed one. -/
theorem Admission.eq_refreshed_of_pending {admission : Admission} {record later : AgentRecord}
    {now : Instant} (hpending : admission.refresh record now = .create later ∨
      admission.refresh record now = .update later) : later = admission.refreshed record now := by
  simp only [Admission.refresh] at hpending
  split at hpending
  · rcases hpending with hpending | hpending <;> cases hpending
  · rcases hpending with hpending | hpending
    · cases hpending
    · cases hpending
      rfl

theorem outcome_eq_registered_iff (record : AgentRecord) :
    RegistrationOutcome.of record = .registered ↔ record.updatedAt = record.createdAt := by
  simp only [RegistrationOutcome.of, AgentRecord.isReregistered]
  by_cases hsame : record.createdAt = record.updatedAt
  · simp [hsame]
  · simp [hsame, Ne.symm hsame]

/-- No stored time, and none that is about to be stored, has a second beyond the bound. -/
structure Within (bound : Int) (store : AgentStore) (stage : RegistrationStage) : Prop where
  stored : ∀ id record, store.get? id = some record → record.updatedAt.seconds ≤ bound
  pending : ∀ record, stage = .create record ∨ stage = .update record →
    record.updatedAt.seconds ≤ bound

/-- One step moves the stored times by one second at most, unless the clock is ahead. -/
theorem Advance.within {bound : Int} (hstep : Advance admission agentId now store stage after next)
    (hindexed : store.FingerprintsIndexed) (hnow : now.seconds ≤ bound)
    (hbefore : Within bound store stage) : Within (bound + 1) next after := by
  have hstored : ∀ id record, store.get? id = some record →
      record.updatedAt.seconds ≤ bound + 1 := by
    intro id record hrecord
    have hbound := hbefore.stored id record hrecord
    omega
  have hwritten : ∀ record, stage = .create record ∨ stage = .update record →
      record.updatedAt.seconds ≤ bound + 1 := by
    intro record hstage
    have hbound := hbefore.pending record hstage
    omega
  cases hstep with
  | unknown hnone =>
      refine ⟨hstored, ?_⟩
      rintro record (hnew | hnew)
      · cases hnew
        change now.seconds ≤ bound + 1
        omega
      · cases hnew
  | known stage record hstage hfound =>
      refine ⟨hstored, ?_⟩
      obtain ⟨⟨id, hrecord⟩, _⟩ := (hindexed.find_iff _ _).1 hfound
      intro later hlater
      rw [Admission.eq_refreshed_of_pending hlater]
      exact seconds_laterThan_le (hbefore.stored id record hrecord) hnow
  | created record next hfingerprint hkey hadded =>
      have hnew := hwritten record (Or.inl rfl)
      exact ⟨forall_of_inserted hstored hnew hadded.get, by simp⟩
  | updated record previous next hprevious hown hreplaced =>
      have hnew := hwritten record (Or.inr rfl)
      exact ⟨forall_of_inserted hstored hnew hreplaced.get, by simp⟩
  | _ => exact ⟨hstored, by simp [fail]⟩

end Muster.ControlPlane
