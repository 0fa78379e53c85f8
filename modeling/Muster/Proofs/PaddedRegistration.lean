import Muster.Proofs.KeyIdentity
import Muster.Proofs.Trimming
/-!
Blanks around the fingerprint and the public key of a registration. They make no difference to what
the registration is answered and what it leaves, and so no agent ever differs from another one by
such blanks only.
-/
namespace Muster

open Text

/-- The registration with blanks around its fingerprint and its public key. -/
def RegistrationRequest.padded (request : RegistrationRequest) (fingerprint publicKey : Padding) :
    RegistrationRequest :=
  { request with
    fingerprint := fingerprint.around request.fingerprint
    publicKey := publicKey.around request.publicKey }

end Muster

namespace Muster.ControlPlane

open Auth Store Text Time

section Checks

variable {request : RegistrationRequest}

theorem fingerprintViolations_around (padding : Padding) (fingerprint : String) :
    fingerprintViolations (padding.around fingerprint) = fingerprintViolations fingerprint := by
  simp only [fingerprintViolations, trim_around]

/-- A key that is all blanks is another matter: it is missing only if there are none. -/
theorem publicKeyViolations_around {publicKey : String} (hkey : isBlankText publicKey = false)
    (padding : Padding) :
    publicKeyViolations (padding.around publicKey) = publicKeyViolations publicKey := by
  have hempty : publicKey.isEmpty = false := by simpa using ne_empty_of_not_blank hkey
  have hpadded : (padding.around publicKey).isEmpty = false := by
    simpa using ne_empty_of_not_blank ((isBlankText_around padding publicKey).trans hkey)
  simp only [publicKeyViolations, hempty, hpadded, Rsa.PublicKey.decode, trim_around]

theorem validateRegistration_padded (hkey : isBlankText request.publicKey = false)
    (fingerprint publicKey : Padding) :
    validateRegistration (request.padded fingerprint publicKey) = validateRegistration request := by
  have hviolations : registrationViolations (request.padded fingerprint publicKey) =
      registrationViolations request := by
    rw [registrationViolations, registrationViolations, RegistrationRequest.padded,
      fingerprintViolations_around, publicKeyViolations_around hkey]
  rw [validateRegistration, validateRegistration, hviolations]

/-- A registration with blanks is let in if the one without them is, and else refused for the same
reason. -/
theorem ofRequest_padded (tokens : BootstrapTokens) (hkey : isBlankText request.publicKey = false)
    (fingerprint publicKey : Padding) :
    Admission.ofRequest tokens (request.padded fingerprint publicKey) =
      (Admission.ofRequest tokens request).map
        fun _ => admissionOf (request.padded fingerprint publicKey) := by
  rw [Admission.ofRequest, Admission.ofRequest, validateRegistration_padded hkey]
  cases validateRegistration request with
  | error violations => rfl
  | ok _ =>
      change (if tokens.verify request.tokenId request.tokenKey then _ else _) = Except.map _ _
      cases tokens.verify request.tokenId request.tokenKey <;> rfl

end Checks

/-- Admissions that a registration does the same with. -/
structure Admission.Alike (admission other : Admission) : Prop where
  fingerprint : admission.fingerprint = other.fingerprint
  publicKey : admission.publicKey = other.publicKey
  publicKeyType : admission.request.publicKeyType = other.request.publicKeyType
  tokenId : admission.request.tokenId = other.request.tokenId
  tags : admission.request.tags = other.request.tags

theorem admissionOf_padded (request : RegistrationRequest) (fingerprint publicKey : Padding) :
    (admissionOf (request.padded fingerprint publicKey)).Alike (admissionOf request) :=
  ⟨trim_around fingerprint _, trim_around publicKey _, rfl, rfl, rfl⟩

section Alike

variable {admission other : Admission} (halike : admission.Alike other)
include halike

theorem Admission.Alike.newRecord (agentId : String) (now : Instant) :
    admission.newRecord agentId now = other.newRecord agentId now := by
  simp only [Admission.newRecord, halike.fingerprint, halike.publicKey, halike.publicKeyType,
    halike.tokenId, halike.tags]

theorem Admission.Alike.refresh (record : AgentRecord) (now : Instant) :
    admission.refresh record now = other.refresh record now := by
  simp only [Admission.refresh, Admission.refreshed, halike.publicKey, halike.publicKeyType,
    halike.tokenId, halike.tags]

theorem Admission.Alike.call? (stage : RegistrationStage) :
    stage.call? admission = stage.call? other := by
  cases stage <;> simp only [RegistrationStage.call?, halike.fingerprint, halike.publicKey]

theorem Admission.Alike.next (agentId : String) (now : Instant) (stage : RegistrationStage)
    (reply : AgentReply) : admission.next agentId now stage reply = other.next agentId now stage reply := by
  unfold Admission.next
  simp only [halike.fingerprint, halike.newRecord, halike.refresh]

variable {σ : Type} (repository : AgentRepository σ) (agentId : String) (now : Instant)

theorem Admission.Alike.step (stage : RegistrationStage) (agents : σ) :
    registrationStep repository admission agentId now stage agents =
      registrationStep repository other agentId now stage agents := by
  simp only [registrationStep, halike.call?, halike.next]

theorem Admission.Alike.run (steps : Nat) (stage : RegistrationStage) (agents : σ) :
    runRegistration repository admission agentId now steps stage agents =
      runRegistration repository other agentId now steps stage agents := by
  induction steps generalizing stage agents with
  | zero => rfl
  | succ steps ih => simp only [runRegistration, halike.step, ih]

end Alike

section Register

variable {request : RegistrationRequest} (tokens : BootstrapTokens)
  (hkey : isBlankText request.publicKey = false) (fingerprint publicKey : Padding)
  (agentId : String)
include hkey

/-- Over every repository, in each of its states. -/
theorem register_padded {σ : Type} (repository : AgentRepository σ) (now : Instant) (agents : σ) :
    register repository tokens (request.padded fingerprint publicKey) agentId now agents =
      register repository tokens request agentId now agents := by
  rw [register, register, ofRequest_padded tokens hkey]
  cases hadmitted : Admission.ofRequest tokens request with
  | error error => rfl
  | ok admission =>
      obtain ⟨-, -, rfl⟩ := (ofRequest_eq_ok_iff _ _ _).1 hadmitted
      simp only [Except.map, (admissionOf_padded request fingerprint publicKey).run]

theorem RegisterCall.firstStage_padded :
    RegisterCall.firstStage tokens ⟨request.padded fingerprint publicKey, agentId⟩ =
      RegisterCall.firstStage tokens ⟨request, agentId⟩ := by
  simp only [firstStage, ofRequest_padded tokens hkey]
  cases Admission.ofRequest tokens request <;> rfl

end Register

section Race

variable {ι : Type} [DecidableEq ι] {calls : ι → RegisterCall}

/-- The call with blanks around the fingerprint and the public key. -/
def RegisterCall.padded (call : RegisterCall) (fingerprint publicKey : Padding) : RegisterCall :=
  { call with request := call.request.padded fingerprint publicKey }

theorem Race.run_padded (tokens : BootstrapTokens)
    (hkeys : ∀ i, isBlankText (calls i).request.publicKey = false)
    (fingerprints publicKeys : ι → Padding) (schedule : List (ι × Instant)) :
    Race.run tokens (fun i => (calls i).padded (fingerprints i) (publicKeys i)) schedule =
      Race.run tokens calls schedule := by
  induction schedule using List.reverseRecOn with
  | nil =>
      simp only [Race.run, List.foldl_nil, Race.start, RegisterCall.padded,
        RegisterCall.firstStage_padded tokens (hkeys _)]
  | append_singleton schedule move ih =>
      have halike := admissionOf_padded (calls move.1).request (fingerprints move.1)
        (publicKeys move.1)
      rw [Race.run_append, Race.run_append, ih]
      simp only [Race.step, RegisterCall.padded, RegisterCall.admission, halike.step]

/-- Nobody brings a text with blanks at its ends into the store. -/
theorem Race.run_trimmed (tokens : BootstrapTokens)
    (hfresh : Function.Injective fun i => (calls i).agentId) (schedule : List (ι × Instant))
    {id : String} {record : AgentRecord}
    (hrecord : (Race.run tokens calls schedule).agents.get? id = some record) :
    trim record.fingerprint = record.fingerprint ∧ trim record.publicKey = record.publicKey := by
  have hrace := Race.run_invariant tokens hfresh schedule
  constructor
  · -- the registration that brought in the agent came to its end with the fingerprint of its own
    obtain ⟨i, -, first, hfirst, howner⟩ := hrace.creators id (by simp [hrecord])
    have hknows := hrace.knows i
    rw [hfirst] at hknows
    obtain ⟨held, hheld, hidentity⟩ := hknows.1.held
    rw [howner, hrecord] at hheld
    cases hheld
    have hfingerprint : record.fingerprint = trim (calls i).request.fingerprint :=
      ((identityOf_eq_iff _ _).1 hidentity).2.1.trans hknows.1.fingerprint
    rw [hfingerprint, trim_trim]
  · obtain ⟨key, hkey⟩ := Race.run_isKeyText tokens hfresh schedule id record hrecord
    rw [hkey, key.trim_encode]

/-- What blanks around fingerprints and public keys leave alone. -/
structure PaddingIgnored (tokens : BootstrapTokens) (calls : ι → RegisterCall)
    (schedule : List (ι × Instant)) : Prop where
  /-- One more registration is answered the same, and leaves the same store. -/
  register : ∀ (request : RegistrationRequest) (fingerprint publicKey : Padding) (agentId : String)
    (now : Instant), isBlankText request.publicKey = false →
    register AgentStore.repository tokens (request.padded fingerprint publicKey) agentId now
        (Race.run tokens calls schedule).agents =
      register AgentStore.repository tokens request agentId now
        (Race.run tokens calls schedule).agents
  /-- The same goes for each of the registrations that have led here. -/
  race : ∀ fingerprints publicKeys : ι → Padding,
    (∀ i, isBlankText (calls i).request.publicKey = false) →
    Race.run tokens (fun i => (calls i).padded (fingerprints i) (publicKeys i)) schedule =
      Race.run tokens calls schedule
  /-- No two agents differ by blanks only. -/
  agents : ∀ id other record rival,
    (Race.run tokens calls schedule).agents.get? id = some record →
    (Race.run tokens calls schedule).agents.get? other = some rival →
    PaddingApart record.fingerprint rival.fingerprint ∨
      PaddingApart record.publicKey rival.publicKey → id = other

/-- Checks, lookups and stored records all take the two texts without the blanks at their ends. -/
theorem registration_ignores_padding (tokens : BootstrapTokens)
    (hfresh : Function.Injective fun i => (calls i).agentId) (schedule : List (ι × Instant)) :
    PaddingIgnored tokens calls schedule := by
  refine ⟨?_, ?_, ?_⟩
  · intro request fingerprint publicKey agentId now hkey
    exact register_padded tokens hkey fingerprint publicKey agentId _ now _
  · intro fingerprints publicKeys hkeys
    exact Race.run_padded tokens hkeys fingerprints publicKeys schedule
  · intro id other record rival hrecord hrival happart
    have hrace := Race.run_invariant tokens hfresh schedule
    obtain ⟨hfingerprint, hkey⟩ := Race.run_trimmed tokens hfresh schedule hrecord
    obtain ⟨hfingerprint', hkey'⟩ := Race.run_trimmed tokens hfresh schedule hrival
    rcases happart with happart | happart
    · have hsame : record.fingerprint = rival.fingerprint := by
        rw [← hfingerprint, ← hfingerprint', (paddingApart_iff _ _).1 happart]
      exact hrace.indexed.fingerprints.unique hrecord hrival hsame
    · have hsame : record.publicKey = rival.publicKey := by
        rw [← hkey, ← hkey', (paddingApart_iff _ _).1 happart]
      exact hrace.indexed.keys.unique hrecord hrival hsame (hrace.records id record hrecord).publicKey

/-- A host that is known comes again, with wide and unbreakable blanks, and another one moves on. -/
theorem registration_ignores_padding_of_return :
    let request : RegistrationRequest :=
      ⟨"host-1", "tok", "secret", "MBowDQYJKoZIhvcNAQEBBQADCQAwBgIBBQIBAw==", "rsa", []⟩
    let calls : Bool → RegisterCall := fun i => ⟨request, if i then "agent-1" else "agent-2"⟩
    let tokens := BootstrapTokens.ofTokens [⟨"tok", "secret"⟩]
    let schedule := [true, true, false, true].map fun i => (i, Instant.epoch)
    let fingerprint : Padding := ⟨"\u3000", "\u00a0\n", by decide, by decide⟩
    let publicKey : Padding := ⟨"\t", "\u2003", by decide, by decide⟩
    (Function.Injective fun i => (calls i).agentId) ∧
      isBlankText request.publicKey = false ∧
      ∀ now, register AgentStore.repository tokens (request.padded fingerprint publicKey) "agent-3"
          now (Race.run tokens calls schedule).agents =
        register AgentStore.repository tokens request "agent-3" now
          (Race.run tokens calls schedule).agents := by
  intro request calls tokens schedule fingerprint publicKey
  have hfresh : Function.Injective fun i => (calls i).agentId := by
    intro i j hsame
    cases i <;> cases j <;> simp_all [calls]
  have hkey : isBlankText request.publicKey = false := by decide
  exact ⟨hfresh, hkey, fun now => (registration_ignores_padding tokens hfresh schedule).register
    request fingerprint publicKey "agent-3" now hkey⟩

end Race

end Muster.ControlPlane
