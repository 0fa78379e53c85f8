import Mathlib.FieldTheory.Finite.Basic
import Muster.Proofs.Base64Reading
import Muster.Proofs.SaltedEncoding
import Muster.Rsa.PrivateKey
/-!
What a private key signs, the public key that it belongs to verifies: raising to the secret exponent
and then to the public one gives the encoded message back.
-/
namespace Muster.Rsa

open Bytes

/-- The public exponent undoes the secret one. -/
def PrivateKey.Matches (key : PrivateKey) : Prop :=
  ∀ n < key.publicKey.modulus,
    Nat.pow (Nat.pow n key.secret) key.publicKey.exponent % key.publicKey.modulus = n

/-- An exponent that leaves one modulo the predecessor of a prime changes nothing modulo the prime. -/
theorem pow_modEq_of_prime {p exponent : Nat} (hp : p.Prime) (hexponent : exponent % (p - 1) = 1)
    (n : Nat) : Nat.ModEq p (Nat.pow n exponent) n := by
  rw [Nat.pow_eq]
  have hsplit : (p - 1) * (exponent / (p - 1)) + 1 = exponent := by
    have hquotient := Nat.div_add_mod exponent (p - 1)
    rwa [hexponent] at hquotient
  by_cases hdvd : p ∣ n
  · have hzero : n ≡ 0 [MOD p] := (Nat.modEq_zero_iff_dvd).2 hdvd
    have hpower : n ^ exponent ≡ 0 [MOD p] := by
      rw [Nat.modEq_zero_iff_dvd, ← hsplit, Nat.pow_succ]
      exact Dvd.dvd.mul_left hdvd _
    exact hpower.trans hzero.symm
  · have hone : n ^ (p - 1) ≡ 1 [MOD p] := by
      rw [← Nat.totient_prime hp]
      exact Nat.ModEq.pow_totient ((Nat.Prime.coprime_iff_not_dvd hp).2 hdvd).symm
    calc n ^ exponent = (n ^ (p - 1)) ^ (exponent / (p - 1)) * n := by
          rw [← Nat.pow_mul, ← Nat.pow_succ, Nat.succ_eq_add_one, hsplit]
      _ ≡ 1 ^ (exponent / (p - 1)) * n [MOD p] := (hone.pow _).mul_right n
      _ = n := by rw [Nat.one_pow, Nat.one_mul]

/-- A consistent key of two primes matches its public key. -/
theorem PrivateKey.matches_of_primes {key : PrivateKey} (hfirst : key.first.Prime)
    (hsecond : key.second.Prime) (hne : key.first ≠ key.second)
    (hconsistent : key.isConsistent = true) : key.Matches := by
  simp only [PrivateKey.isConsistent, Bool.and_eq_true, decide_eq_true_eq] at hconsistent
  obtain ⟨⟨⟨⟨-, -⟩, hmodulus⟩, hone⟩, htwo⟩ := hconsistent
  intro n hn
  have hpower : Nat.pow (Nat.pow n key.secret) key.publicKey.exponent =
      Nat.pow n (key.secret * key.publicKey.exponent) := by
    simp only [Nat.pow_eq, Nat.pow_mul]
  have hcoprime : Nat.Coprime key.first key.second := (Nat.coprime_primes hfirst hsecond).2 hne
  have hsame : Nat.ModEq (key.first * key.second)
      (Nat.pow n (key.secret * key.publicKey.exponent)) n :=
    (Nat.modEq_and_modEq_iff_modEq_mul hcoprime).1
      ⟨pow_modEq_of_prime hfirst hone n, pow_modEq_of_prime hsecond htwo n⟩
  rw [hmodulus] at hsame
  rw [hpower, hsame, Nat.mod_eq_of_lt hn]

theorem PublicKey.modulus_pos (key : PublicKey) : 0 < key.modulus := by
  have hless := key.admissible.2.1
  omega

theorem PublicKey.encodedSize_le (key : PublicKey) : encodedSize key.bits ≤ key.size := by
  have hpositive := key.modulus_pos
  have hlow : Nat.pow 2 (key.bits - 1) ≤ key.modulus := pow_bitLength_le (by omega)
  have hhigh : key.modulus < Nat.pow 2 (8 * key.size) := by
    rw [← pow_octets]
    exact lt_pow_width key.modulus
  have hbits : key.bits - 1 < 8 * key.size :=
    (Nat.pow_lt_pow_iff_right (by decide)).1 (Nat.lt_of_le_of_lt hlow hhigh)
  rw [encodedSize]
  omega

theorem PublicKey.length_ofNatPadded_size (key : PublicKey) {number : Nat}
    (hnumber : number < key.modulus) : (ofNatPadded key.size number).length = key.size :=
  length_ofNatPadded (Nat.lt_trans hnumber (lt_pow_width _))

/-- A number below the modulus that opens to an encoding of the message is a signature of it. -/
theorem PublicKey.verifies_of_opened {key : PublicKey} {number : Nat} {message encoded : List UInt8}
    (hnumber : number < key.modulus) (hopened : powerMod number key.exponent key.modulus = toNat encoded)
    (hlength : encoded.length = encodedSize key.bits)
    (hencodes : isEncoding key.bits message encoded = true) :
    key.verifies message (ofNatPadded key.size number) = true := by
  have hroom := key.encodedSize_le
  have hzeros : (List.replicate (key.size - encoded.length) (0 : UInt8)).length =
      key.size - encodedSize key.bits := by rw [List.length_replicate, hlength]
  have hsound : ¬ ((ofNatPadded key.size number).length ≠ key.size ∨ key.modulus ≤ number) := by
    rintro (hother | hbeyond)
    · exact hother (key.length_ofNatPadded_size hnumber)
    · exact absurd hnumber (Nat.not_lt.2 hbeyond)
  simp only [PublicKey.verifies, toNat_ofNatPadded, hopened, if_neg hsound]
  rw [ofNatPadded_toNat (by omega), ← hzeros, List.drop_left]
  exact hencodes

/-- Signing and opening give back every number below the modulus. -/
theorem PrivateKey.Matches.powerMod {key : PrivateKey} (hmatches : key.Matches) {n : Nat}
    (hn : n < key.publicKey.modulus) :
    powerMod (powerMod n key.secret key.publicKey.modulus) key.publicKey.exponent
      key.publicKey.modulus = n := by
  have hundone := hmatches n hn
  rw [Nat.pow_eq, Nat.pow_mod] at hundone
  rw [powerMod_eq, powerMod_eq]
  exact hundone

/-- A key that matches and is long enough signs every message, and the signature is verified. -/
theorem PrivateKey.sign?_verifies {key : PrivateKey} (hmatches : key.Matches)
    (hbits : HoldsSalt key.publicKey.bits) {salt : List UInt8} (hsalt : salt.length = saltSize)
    (message : List UInt8) :
    ∃ signature, key.sign? salt message = some signature ∧ signature ≠ [] ∧
      key.publicKey.verifies message signature = true := by
  obtain ⟨encoded, hencoded, hlength, hlt, hencodes⟩ := encodeMessage?_spec hbits hsalt message
  have hpositive := key.publicKey.modulus_pos
  have hsmall : toNat encoded < key.publicKey.modulus :=
    Nat.lt_of_lt_of_le hlt (pow_bitLength_le (by omega))
  have hopened := hmatches.powerMod hsmall
  have hbelow : powerMod (toNat encoded) key.secret key.publicKey.modulus < key.publicKey.modulus := by
    rw [powerMod_eq]
    exact Nat.mod_lt _ hpositive
  refine ⟨_, ?_, ?_, PublicKey.verifies_of_opened hbelow hopened hlength hencodes⟩
  · simp only [PrivateKey.sign?, hencoded, Option.bind_eq_bind, Option.bind_some]
  · intro hempty
    have hsize := key.publicKey.length_ofNatPadded_size hbelow
    have hroom := key.publicKey.encodedSize_le
    rw [hempty, List.length_nil] at hsize
    rw [HoldsSalt] at hbits
    omega

section Text

variable {key : PrivateKey} {salt : List UInt8}

/-- The text of a signature is verified under every text of the public key. -/
theorem PrivateKey.verifiesUnder_signText (hmatches : key.Matches)
    (hbits : HoldsSalt key.publicKey.bits) (hsalt : salt.length = saltSize) {keyText : String}
    (hkey : PublicKey.decode keyText = .ok key.publicKey) (message : List UInt8) :
    verifiesUnder keyText message (key.signText salt message) = true := by
  obtain ⟨signature, hsome, -, hverifies⟩ := key.sign?_verifies hmatches hbits hsalt message
  have hdecode : Base64.decode? (key.signText salt message) = some signature := by
    rw [Base64.decode?_eq_some_iff, PrivateKey.signText, hsome, Option.getD_some]
  simp only [verifiesUnder, hkey, PublicKey.verifiesText, hdecode]
  exact hverifies

theorem PrivateKey.signText_ne_empty (hmatches : key.Matches)
    (hbits : HoldsSalt key.publicKey.bits) (hsalt : salt.length = saltSize)
    (message : List UInt8) : key.signText salt message ≠ "" := by
  obtain ⟨signature, hsome, hnonempty, -⟩ := key.sign?_verifies hmatches hbits hsalt message
  intro hempty
  have hchars := congrArg String.toList hempty
  rw [PrivateKey.signText, hsome, Option.getD_some, Base64.encode, String.toList_ofList] at hchars
  exact Base64.encodeChars_ne_nil hnonempty hchars

theorem PrivateKey.signText_visible (key : PrivateKey) (salt message : List UInt8) :
    ∀ c ∈ (key.signText salt message).toList, 0x21 ≤ c.toNat ∧ c.toNat ≤ 0x7E := by
  rw [PrivateKey.signText, Base64.encode, String.toList_ofList]
  exact Base64.encodeChars_visible _

end Text

end Muster.Rsa
