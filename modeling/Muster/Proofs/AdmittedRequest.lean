import Muster.ControlPlane.Registry
/-!
Which registrations are let in: those whose fields all pass their checks and whose token is known.
-/
namespace Muster.ControlPlane

open Auth Store Text

/-- The fields of a registration are as they have to be. -/
structure WellFormed (request : RegistrationRequest) : Prop where
  fingerprint : trim request.fingerprint ≠ ""
  fingerprintSize : (trim request.fingerprint).utf8ByteSize ≤ longestFingerprint
  tokenId : request.tokenId ≠ ""
  tokenKey : request.tokenKey ≠ ""
  publicKeyType : request.publicKeyType = rsaKeyType
  publicKey : request.publicKey ≠ "" ∧ ∃ key, Rsa.PublicKey.decode request.publicKey = .ok key
  tags : ∀ tag ∈ request.tags, isBlankText tag.key = false

theorem expect_eq_nil_iff (test : Bool) (field message : String) :
    expect test field message = [] ↔ test = true := by
  cases test <;> simp [expect]

theorem checked_eq_ok_iff (violations : List Violation) :
    checked violations = .ok () ↔ violations = [] := by
  cases violations <;> simp [checked]

theorem fingerprintViolations_eq_nil_iff (fingerprint : String) :
    fingerprintViolations fingerprint = [] ↔
      trim fingerprint ≠ "" ∧ (trim fingerprint).utf8ByteSize ≤ longestFingerprint := by
  by_cases hempty : trim fingerprint = ""
  · simp [fingerprintViolations, hempty]
  · simp [fingerprintViolations, hempty, expect_eq_nil_iff]

theorem publicKeyViolations_eq_nil_iff (publicKey : String) :
    publicKeyViolations publicKey = [] ↔
      publicKey ≠ "" ∧ ∃ key, Rsa.PublicKey.decode publicKey = .ok key := by
  by_cases hempty : publicKey = ""
  · simp [publicKeyViolations, hempty]
  · cases hkey : Rsa.PublicKey.decode publicKey <;>
      simp [publicKeyViolations, hempty, hkey]

theorem validateRegistration_eq_ok_iff (request : RegistrationRequest) :
    validateRegistration request = .ok () ↔ WellFormed request := by
  simp only [validateRegistration, checked_eq_ok_iff, registrationViolations,
    List.append_eq_nil_iff, fingerprintViolations_eq_nil_iff, expect_eq_nil_iff,
    publicKeyViolations_eq_nil_iff]
  constructor
  · rintro ⟨⟨⟨⟨⟨⟨hfingerprint, hsize⟩, hid⟩, htoken⟩, htype⟩, hkey⟩, htags⟩
    exact ⟨hfingerprint, hsize, by simpa using hid, by simpa using htoken, by simpa using htype,
      hkey, by simpa using htags⟩
  · rintro ⟨hfingerprint, hsize, hid, htoken, htype, hkey, htags⟩
    exact ⟨⟨⟨⟨⟨⟨hfingerprint, hsize⟩, by simpa using hid⟩, by simpa using htoken⟩,
      by simpa using htype⟩, hkey⟩, by simpa using htags⟩

/-- What a registration works with once it is let in. -/
def admissionOf (request : RegistrationRequest) : Admission :=
  ⟨request, trim request.fingerprint, trim request.publicKey⟩

theorem ofRequest_eq_ok_iff (tokens : BootstrapTokens) (request : RegistrationRequest)
    (admission : Admission) :
    Admission.ofRequest tokens request = .ok admission ↔
      WellFormed request ∧ tokens.verify request.tokenId request.tokenKey = true ∧
        admission = admissionOf request := by
  rw [← validateRegistration_eq_ok_iff]
  simp only [Admission.ofRequest]
  cases hvalid : validateRegistration request with
  | error violations => simp
  | ok _ =>
      cases htoken : tokens.verify request.tokenId request.tokenKey with
      | false => simp
      | true => simp [admissionOf, eq_comm]

/-- A blank text is no public key. -/
theorem WellFormed.trim_publicKey_ne {request : RegistrationRequest}
    (hrequest : WellFormed request) : trim request.publicKey ≠ "" := by
  intro hblank
  obtain ⟨_, key, hkey⟩ := hrequest.publicKey
  have hnone : Rsa.PublicKey.ofDer? [] = none := rfl
  simp [Rsa.PublicKey.decode, hblank, Bytes.Base64.decode?, Bytes.Base64.decodeChars?, hnone]
    at hkey

end Muster.ControlPlane
