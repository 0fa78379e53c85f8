import Mathlib
import Muster.Agent.Enrolment
import Muster.Proofs.AdmittedRequest
import Muster.Proofs.CodecReading
import Muster.Proofs.KeyText
import Muster.Proofs.Trimming
import Muster.Rsa.Generation
/-!
What an agent can register with. Agent and control plane check the same fields by rules of their
own: the agent looks at its configuration before it makes a key, the control plane at the request
that comes of both. They agree but for a configured fingerprint, which the agent takes as it is, for
the length of the key, which the agent bounds from below only, and for tags whose keys are blank.
-/
namespace Muster.Rsa

open Bytes

/-- What is promised of a key that is made with a number of bits: its modulus, a product of odd
primes, has exactly so many, and its exponent is that of all such keys. -/
structure FreshKey (bits modulus exponent : Nat) : Prop where
  bits : bitLength modulus = bits
  odd : modulus % 2 = 1
  exponent : exponent = generatedExponent

variable {bits modulus exponent : Nat}

/-- A key that is not short can be used exactly if it is not too long either. -/
theorem FreshKey.admissible_iff (hfresh : FreshKey bits modulus exponent) (hbits : 18 ≤ bits) :
    Admissible modulus exponent ↔ bits ≤ 4096 := by
  obtain ⟨hlength, hodd, rfl⟩ := hfresh
  constructor
  · intro hadmissible
    exact hlength ▸ hadmissible.1
  · intro hmost
    have hless : generatedExponent < modulus := by
      have hzero : modulus ≠ 0 := by
        rintro rfl
        cases hodd
      calc generatedExponent < Nat.pow 2 17 := by decide
        _ ≤ Nat.pow 2 (bitLength modulus - 1) := pow_two_le (by omega)
        _ ≤ modulus := pow_bitLength_le hzero
    exact ⟨hlength ▸ hmost, hless, hodd, by decide, by decide, by decide⟩

theorem freshKey_of_keyOfPrimes? {first second : Nat} {key : PrivateKey}
    (hkey : keyOfPrimes? bits first second = some key) :
    FreshKey bits key.publicKey.modulus key.publicKey.exponent := by
  simp only [keyOfPrimes?, PublicKey.ofNumbers?, Option.bind_eq_bind,
    Option.bind_eq_some_iff] at hkey
  obtain ⟨publicKey, hpublic, hkey⟩ := hkey
  split at hpublic
  · next hadmissible =>
      cases hpublic
      split at hkey
      · next hform =>
          cases hkey
          exact ⟨hform.1, hadmissible.2.2.1, rfl⟩
      · cases hkey
  · cases hpublic

theorem freshKey_of_generateFrom? {rounds : Nat} {source : Entropy} {key : PrivateKey}
    (hkey : generateFrom? bits rounds source = some key) :
    FreshKey bits key.publicKey.modulus key.publicKey.exponent := by
  induction rounds generalizing source with
  | zero => cases hkey
  | succ rounds ih =>
      simp only [generateFrom?] at hkey
      split at hkey
      · cases hkey
      · split at hkey
        · cases hkey
        · split at hkey
          · next hprimes =>
              cases hkey
              exact freshKey_of_keyOfPrimes? hprimes
          · exact ih hkey

/-- The text of a key that was made with a number of bits. -/
def IsFreshKeyText (bits : Nat) (text : String) : Prop :=
  ∃ modulus exponent, FreshKey bits modulus exponent ∧ text = keyText modulus exponent

/-- Every key that an agent makes keeps what is promised of it. -/
theorem isFreshKeyText_of_generate? {source : Entropy} {key : PrivateKey}
    (hkey : PrivateKey.generate? bits source = some key) :
    IsFreshKeyText bits key.publicKey.encode := by
  rw [PrivateKey.generate?] at hkey
  split at hkey
  · cases hkey
  · exact ⟨_, _, freshKey_of_generateFrom? hkey, key.publicKey.encode_eq⟩

end Muster.Rsa

namespace Muster.Agent

open ControlPlane Files Http Json Rsa Text

/-- What a configuration keeps that its agent takes. -/
structure Config.Accepted (config : Config) : Prop where
  server : config.server ≠ ""
  timeout : 0 < config.timeout
  pollInterval : 0 < config.pollInterval
  keyBits : leastKeyBits ≤ config.keyBits
  tags : ∀ tag ∈ config.tags, tag.key ≠ ""

theorem require_eq_ok_iff (condition : Bool) (reason : String) :
    require condition reason = .ok () ↔ condition = true := by
  cases condition <;> simp [require]

theorem require_bind_eq_ok_iff (condition : Bool) (reason : String)
    (next : Except ConfigError Unit) :
    (require condition reason >>= fun _ => next) = .ok () ↔ condition = true ∧ next = .ok () := by
  cases condition <;> simp [require, bind, Except.bind]

theorem Config.validate_eq_ok_iff (config : Config) :
    config.validate = .ok () ↔ config.Accepted := by
  simp only [Config.validate, require_bind_eq_ok_iff, require_eq_ok_iff, List.all_eq_true]
  constructor
  · rintro ⟨hserver, htimeout, hpoll, hbits, htags⟩
    exact ⟨by simpa using hserver, by simpa using htimeout, by simpa using hpoll,
      by simpa using hbits, by simpa using htags⟩
  · rintro ⟨hserver, htimeout, hpoll, hbits, htags⟩
    exact ⟨by simpa using hserver, by simpa using htimeout, by simpa using hpoll,
      by simpa using hbits, by simpa using htags⟩

theorem Config.accepted_of_ofText {text : String} {config : Config}
    (hconfig : Config.ofText text = .ok config) : config.Accepted := by
  rw [← config.validate_eq_ok_iff]
  simp only [Config.ofText, configOfText] at hconfig
  split at hconfig
  · cases hconfig
  · next found hfound =>
      obtain ⟨⟨⟩, hvalid, hfound⟩ := bind_eq_ok hconfig
      cases hfound
      exact hvalid

/-- A name that the control plane takes as a fingerprint, if the machine has one. -/
def Host.HasPlainName (host : Host) : Prop :=
  ∀ name, host.name = some name →
    isBlankText name = false ∧ name.utf8ByteSize ≤ longestFingerprint

theorem fingerprintViolations_displayName {host : Host} (hhost : host.HasPlainName) :
    fingerprintViolations host.displayName = [] := by
  rw [fingerprintViolations_eq_nil_iff, Host.displayName]
  cases hname : host.name with
  | none => decide
  | some name =>
      obtain ⟨hblank, hsize⟩ := hhost name hname
      exact ⟨(trim_ne_empty_iff name).2 hblank, Nat.le_trans (utf8ByteSize_trim_le name) hsize⟩

/-- What the control plane asks of a configuration besides. -/
structure Config.Registrable (config : Config) : Prop where
  fingerprint : ∀ fingerprint, config.fingerprint = some fingerprint →
    isBlankText fingerprint = false ∧ (trim fingerprint).utf8ByteSize ≤ longestFingerprint
  keyBits : config.keyBits ≤ 4096
  tags : ∀ tag ∈ config.tags, isBlankText tag.key = false

section Enrolment

variable {config : Config} {host : Host} {publicKey : String}

/-- What is wrong with the text of a fresh key is that it is too long, or nothing. -/
theorem publicKeyViolations_of_fresh (haccepted : config.Accepted)
    (hkey : IsFreshKeyText config.keyBits publicKey) :
    publicKeyViolations publicKey =
      expect (config.keyBits ≤ 4096) "public_key" KeyTextError.notAKey.message := by
  obtain ⟨modulus, exponent, hfresh, rfl⟩ := hkey
  have hbits : leastKeyBits ≤ config.keyBits := haccepted.keyBits
  have hadmissible := hfresh.admissible_iff (Nat.le_trans (by decide) hbits)
  have hnonempty : (keyText modulus exponent).isEmpty = false := by
    simpa using keyText_ne_empty modulus exponent
  rw [publicKeyViolations, hnonempty, decode_keyText]
  by_cases hmost : config.keyBits ≤ 4096
  · simp [expect, hmost, hadmissible.2 hmost]
  · simp [expect, hmost, mt hadmissible.1 hmost]

/-- What the control plane finds wrong with the registration of an agent: nothing but its
fingerprint, the length of its key, and a configured tag without a visible key. -/
theorem registrationViolations_registration (haccepted : config.Accepted)
    (hid : config.tokenId ≠ "") (htoken : config.tokenKey ≠ "")
    (hkey : IsFreshKeyText config.keyBits publicKey) :
    registrationViolations (config.registration host publicKey) =
      fingerprintViolations (config.fingerprintOn host) ++
        expect (config.keyBits ≤ 4096) "public_key" KeyTextError.notAKey.message ++
        expect (config.tags.all fun tag => !isBlankText tag.key) "tags"
          "tag keys must not be empty" := by
  have hhost : (host.tags.all fun tag => !isBlankText tag.key) = true := by
    simp [Host.tags, isBlankText, isBlank]
  simp [registrationViolations, Config.registration, publicKeyViolations_of_fresh haccepted hkey,
    withHostTags, List.all_append, hhost, expect, hid, htoken]

/-- Agent and control plane agree on what can be registered, up to a configured fingerprint that is
blank or too long, a key that is too long, and tags with blanks for a key. A registration passes
exactly if nothing of that is the case, whatever else its agent was configured with. -/
theorem enrolment_agrees {text : String} (hconfig : Config.ofText text = .ok config)
    (hid : config.tokenId ≠ "") (htoken : config.tokenKey ≠ "")
    (hhost : config.fingerprint = none → host.HasPlainName)
    (hkey : IsFreshKeyText config.keyBits publicKey) :
    validateRegistration (config.registration host publicKey) = .ok () ↔ config.Registrable := by
  have haccepted := Config.accepted_of_ofText hconfig
  rw [validateRegistration, checked_eq_ok_iff,
    registrationViolations_registration haccepted hid htoken hkey, List.append_eq_nil_iff,
    List.append_eq_nil_iff, expect_eq_nil_iff, expect_eq_nil_iff, decide_eq_true_eq,
    List.all_eq_true]
  constructor
  · rintro ⟨⟨hfingerprint, hbits⟩, htags⟩
    refine ⟨fun fingerprint hconfigured => ?_, hbits, fun tag htag => by simpa using htags tag htag⟩
    rwa [Config.fingerprintOn, hconfigured, Option.getD_some, fingerprintViolations_eq_nil_iff,
      trim_ne_empty_iff] at hfingerprint
  · intro hregistrable
    refine ⟨⟨?_, hregistrable.keyBits⟩, fun tag htag => by simpa using hregistrable.tags tag htag⟩
    rw [Config.fingerprintOn]
    cases hconfigured : config.fingerprint with
    | none => exact fingerprintViolations_displayName (hhost hconfigured)
    | some fingerprint =>
        rw [Option.getD_some, fingerprintViolations_eq_nil_iff, trim_ne_empty_iff]
        exact hregistrable.fingerprint fingerprint hconfigured

end Enrolment

/-- There is a key of 1128 bits, with the primes 2^521 - 1 and 2^607 - 1. -/
theorem exists_mersenne_key :
    ∃ key, keyOfPrimes? 1128 (2 ^ 521 - 1) (2 ^ 607 - 1) = some key ∧
      IsFreshKeyText 1128 key.publicKey.encode := by
  have hsome : (keyOfPrimes? 1128 (2 ^ 521 - 1) (2 ^ 607 - 1)).isSome = true := by decide +kernel
  obtain ⟨key, hkey⟩ := Option.isSome_iff_exists.1 hsome
  exact ⟨key, hkey, _, _, freshKey_of_keyOfPrimes? hkey, key.publicKey.encode_eq⟩

/-- A configuration with a tag, but without a fingerprint. -/
def taggedText : String :=
  "server: hub\nbootstrap:\n token_id: t\n token_key: k\n" ++
    "security:\n key_bits: 1128\ntags:\n- key: env\n  value: v"

-- A text is read character by character, which is deep for texts of this length.
set_option maxRecDepth 4000 in
/-- An agent without a configured fingerprint, on a machine with a name. -/
theorem enrolment_agrees_on_named_host :
    let config : Config :=
      { server := "hub", fingerprint := none, tokenId := "t", tokenKey := "k",
        keyBits := 1128, tags := [⟨"env", "v"⟩] }
    Config.ofText taggedText = .ok config ∧
      ∃ key, keyOfPrimes? config.keyBits (2 ^ 521 - 1) (2 ^ 607 - 1) = some key ∧
        (validateRegistration (config.registration ⟨some "box"⟩ key.publicKey.encode) = .ok () ↔
          config.Registrable) ∧
        validateRegistration (config.registration ⟨some "box"⟩ key.publicKey.encode) = .ok () := by
  intro config
  have hconfig : Config.ofText taggedText = .ok config := by
    cbv
  have hhost : Host.HasPlainName ⟨some "box"⟩ := by
    rintro _ ⟨⟩
    decide
  have hregistrable : config.Registrable := by
    refine ⟨?_, by decide, by decide⟩
    rintro _ ⟨⟩
  obtain ⟨key, hprimes, hkey⟩ := exists_mersenne_key
  have hagrees := enrolment_agrees hconfig (by decide) (by decide) (fun _ => hhost) hkey
  exact ⟨hconfig, key, hprimes, hagrees, hagrees.2 hregistrable⟩

set_option maxRecDepth 4000 in
/-- A blank fingerprint is taken by an agent, and turned away by the control plane; so is a blank for
the key of a tag. -/
theorem accepted_config_turned_away :
    let named : Config :=
      { server := "hub", fingerprint := some " ", tokenId := "t", tokenKey := "k", keyBits := 1128 }
    let tagged : Config :=
      { server := "hub", fingerprint := some "f", tokenId := "t", tokenKey := "k", keyBits := 1128,
        tags := [⟨" ", ""⟩] }
    Config.ofText ("server: hub\nfingerprint: ' '\nbootstrap:\n token_id: t\n token_key: k\n" ++
      "security:\n key_bits: 1128") = .ok named ∧
    Config.ofText ("server: hub\nfingerprint: f\nbootstrap:\n token_id: t\n token_key: k\n" ++
      "security:\n key_bits: 1128\ntags:\n- key: ' '\n  value: ''") = .ok tagged ∧
    ∃ key, keyOfPrimes? 1128 (2 ^ 521 - 1) (2 ^ 607 - 1) = some key ∧
      validateRegistration (named.registration ⟨some "box"⟩ key.publicKey.encode) =
        .error [⟨"fingerprint", "must not be empty"⟩] ∧
      validateRegistration (tagged.registration ⟨some "box"⟩ key.publicKey.encode) =
        .error [⟨"tags", "tag keys must not be empty"⟩] := by
  intro named tagged
  obtain ⟨key, hprimes, hkey⟩ := exists_mersenne_key
  have hnamed : named.Accepted := ⟨by decide, by decide, by decide, by decide, by decide⟩
  have htagged : tagged.Accepted := ⟨by decide, by decide, by decide, by decide, by decide⟩
  refine ⟨by cbv, by cbv, key, hprimes, ?_, ?_⟩
  · rw [validateRegistration,
      registrationViolations_registration hnamed (by decide) (by decide) hkey]
    decide
  · rw [validateRegistration,
      registrationViolations_registration htagged (by decide) (by decide) hkey]
    decide

end Muster.Agent
