import Muster.Proofs.Base64Reading
import Muster.Proofs.DerReading
import Muster.Rsa.PublicKey
/-!
A public key has one text: a text is read as the key exactly if it is, blanks at its ends apart, the
one that is written for the key.
-/
namespace Muster.Rsa

open Bytes

theorem fits_of_le {contents : List UInt8} (hlength : contents.length ≤ 2000) : Der.Fits contents := by
  have hlimit : 2000 < Nat.pow 2 28 := by decide
  exact Nat.lt_of_le_of_lt hlength hlimit

/-- The numbers of a key are far from the longest that can be read. -/
structure Readable (n : Nat) : Prop where
  contents : Der.Fits (Der.naturalContents n)
  length : (Der.natural n).length ≤ 519

theorem readable_of_width {n : Nat} (hn : width n ≤ 512) : Readable n := by
  have hcontents := Der.length_naturalContents_le n
  have hfits : Der.Fits (Der.naturalContents n) := fits_of_le (by omega)
  have hnatural := Der.length_element_le hfits Der.integerTag
  refine ⟨hfits, ?_⟩
  rw [Der.natural]
  omega

theorem PublicKey.readable (key : PublicKey) :
    Readable key.modulus ∧ Readable key.exponent := by
  obtain ⟨hbits, hless, -⟩ := key.admissible
  have hmodulus : width key.modulus ≤ 512 := width_le_of_bitLength hbits
  exact ⟨readable_of_width hmodulus,
    readable_of_width (Nat.le_trans (width_mono (Nat.le_of_lt hless)) hmodulus)⟩

/-- The two numbers one behind the other, the bits that hold their sequence, and all of the octets. -/
def numbersDer (modulus exponent : Nat) : List UInt8 :=
  Der.natural modulus ++ Der.natural exponent
def bitsDer (modulus exponent : Nat) : List UInt8 :=
  0 :: Der.element Der.sequenceTag (numbersDer modulus exponent)
def keyDer (modulus exponent : Nat) : List UInt8 :=
  Der.element Der.sequenceTag (Der.element Der.sequenceTag algorithmContents ++
    Der.element Der.bitStringTag (bitsDer modulus exponent))

theorem PublicKey.toDer_eq (key : PublicKey) : key.toDer = keyDer key.modulus key.exponent := by
  simp only [PublicKey.toDer, Der.sequence, Der.bitString, keyDer, bitsDer, numbersDer,
    List.flatten_cons, List.flatten_nil, List.append_nil]

section Numbers

variable {modulus exponent : Nat}

theorem fits_numbersDer (hmodulus : Readable modulus) (hexponent : Readable exponent) :
    Der.Fits (numbersDer modulus exponent) ∧ (numbersDer modulus exponent).length ≤ 1038 := by
  have hfirst := hmodulus.length
  have hsecond := hexponent.length
  have hlength : (numbersDer modulus exponent).length ≤ 1038 := by
    rw [numbersDer, List.length_append]
    omega
  exact ⟨fits_of_le (by omega), hlength⟩

theorem fits_bitsDer (hmodulus : Readable modulus) (hexponent : Readable exponent) :
    Der.Fits (bitsDer modulus exponent) ∧ (bitsDer modulus exponent).length ≤ 1045 := by
  obtain ⟨hfits, hnumbers⟩ := fits_numbersDer hmodulus hexponent
  have hsequence := Der.length_element_le hfits Der.sequenceTag
  have hlength : (bitsDer modulus exponent).length ≤ 1045 := by
    rw [bitsDer, List.length_cons]
    omega
  exact ⟨fits_of_le (by omega), hlength⟩

theorem fits_algorithmContents : Der.Fits algorithmContents := fits_of_le (by decide)

/-- What is read as two numbers is their one text. -/
theorem eq_keyDer_of_numbersOfDer? {bytes : List UInt8}
    (hread : numbersOfDer? bytes = some (modulus, exponent)) : bytes = keyDer modulus exponent := by
  simp only [numbersOfDer?, Option.bind_eq_bind, Option.bind_eq_some_iff, Prod.exists,
    Der.whole?_eq_some_iff, Der.take?_eq_some_iff, Der.takeNatural?_eq_some_iff,
    Der.bitStringOctets?_eq_some_iff] at hread
  obtain ⟨outer, ⟨rfl, -⟩, algorithm, rest, ⟨rfl, -⟩, bits, ⟨rfl, -⟩, octets, rfl, inner, ⟨rfl, -⟩,
    n, behind, ⟨rfl, -⟩, e, tail, ⟨rfl, -⟩, hsame⟩ := hread
  split at hsame
  · next hform =>
      obtain ⟨rfl, hempty⟩ := hform
      cases hsame
      rw [List.isEmpty_iff.1 hempty, List.append_nil]
      rfl
  · cases hsame

/-- Numbers that a key can hold make octets that can be read. -/
theorem fits_keyDer (hmodulus : Readable modulus) (hexponent : Readable exponent) :
    Der.Fits (keyDer modulus exponent) := by
  obtain ⟨hbits, hlength⟩ := fits_bitsDer hmodulus hexponent
  have halgorithm := Der.length_element_le fits_algorithmContents Der.sequenceTag
  have hstring := Der.length_element_le hbits Der.bitStringTag
  have houter : (Der.element Der.sequenceTag algorithmContents ++
      Der.element Der.bitStringTag (bitsDer modulus exponent)).length ≤ 1070 := by
    change (Der.element Der.sequenceTag algorithmContents).length ≤ 13 + 6 at halgorithm
    rw [List.length_append]
    omega
  have hwhole := Der.length_element_le (fits_of_le (Nat.le_trans houter (by decide)))
    Der.sequenceTag
  rw [keyDer]
  exact fits_of_le (by omega)

/-- Two numbers are read as they were written, whether or not they are those of a key, unless they
are far too long. -/
theorem numbersOfDer?_keyDer (hfits : Der.Fits (keyDer modulus exponent)) :
    numbersOfDer? (keyDer modulus exponent) = some (modulus, exponent) := by
  have houter := hfits.of_element
  have hbits := houter.of_append.2.of_element
  have hsequence : Der.Fits (Der.element Der.sequenceTag (numbersDer modulus exponent)) :=
    (@Der.Fits.of_append [0] _ hbits).2
  have hnumbers := hsequence.of_element
  obtain ⟨hmodulus, hexponent⟩ := hnumbers.of_append
  simp only [numbersOfDer?, Option.bind_eq_bind, Option.bind_eq_some_iff, Prod.exists,
    Der.whole?_eq_some_iff, Der.take?_eq_some_iff, Der.takeNatural?_eq_some_iff,
    Der.bitStringOctets?_eq_some_iff]
  refine ⟨_, ⟨rfl, houter⟩, algorithmContents, _, ⟨rfl, fits_algorithmContents⟩, _, ⟨rfl, hbits⟩,
    _, rfl, _, ⟨rfl, hnumbers⟩, modulus, _, ⟨rfl, hmodulus.of_element⟩, exponent, [],
    ⟨(List.append_nil _).symm, hexponent.of_element⟩, ?_⟩
  exact if_pos ⟨rfl, rfl⟩

end Numbers

/-- Octets are read as a key exactly if they are what is written for it. -/
theorem PublicKey.ofDer?_eq_some_iff {bytes : List UInt8} {key : PublicKey} :
    PublicKey.ofDer? bytes = some key ↔ bytes = key.toDer := by
  rw [key.toDer_eq]
  simp only [PublicKey.ofDer?, Option.bind_eq_bind, Option.bind_eq_some_iff, Prod.exists,
    PublicKey.ofNumbers?]
  constructor
  · rintro ⟨modulus, exponent, hread, hkey⟩
    split at hkey
    · cases hkey
      exact eq_keyDer_of_numbersOfDer? hread
    · cases hkey
  · rintro rfl
    obtain ⟨hmodulus, hexponent⟩ := key.readable
    exact ⟨_, _, numbersOfDer?_keyDer (fits_keyDer hmodulus hexponent), dif_pos key.admissible⟩

/-- A text is read as a key exactly if, blanks at its ends apart, it is what is written for it. -/
theorem PublicKey.decode_eq_ok_iff {text : String} {key : PublicKey} :
    PublicKey.decode text = .ok key ↔ Text.trim text = key.encode := by
  rw [PublicKey.encode, ← Base64.decode?_eq_some_iff, PublicKey.decode]
  cases hbytes : Base64.decode? (Text.trim text) with
  | none => simp
  | some bytes =>
      rw [Option.some.injEq, ← PublicKey.ofDer?_eq_some_iff]
      cases hkey : PublicKey.ofDer? bytes with
      | none => simp [hkey]
      | some found => simp [hkey]

/-- The text of two numbers, in the form of a key. They need not be those of a key that can be
used. -/
def keyText (modulus exponent : Nat) : String :=
  Base64.encode (keyDer modulus exponent)

theorem PublicKey.encode_eq (key : PublicKey) : key.encode = keyText key.modulus key.exponent := by
  rw [PublicKey.encode, key.toDer_eq, keyText]

theorem keyText_visible (modulus exponent : Nat) :
    ∀ c ∈ (keyText modulus exponent).toList, 0x21 ≤ c.toNat ∧ c.toNat ≤ 0x7E := by
  rw [keyText, Base64.encode, String.toList_ofList]
  exact Base64.encodeChars_visible (keyDer modulus exponent)

theorem trim_keyText (modulus exponent : Nat) :
    Text.trim (keyText modulus exponent) = keyText modulus exponent := by
  apply Text.trim_eq_self
  intro c hc
  obtain ⟨hlow, hhigh⟩ := keyText_visible modulus exponent c hc
  exact Text.isBlank_of_visible hlow hhigh

theorem keyText_ne_empty (modulus exponent : Nat) : keyText modulus exponent ≠ "" := by
  rw [keyText, Base64.encode, Ne, String.ofList_eq_empty_iff]
  exact Base64.encodeChars_ne_nil (List.cons_ne_nil _ _)

theorem PublicKey.trim_encode (key : PublicKey) : Text.trim key.encode = key.encode := by
  rw [key.encode_eq, trim_keyText]

theorem PublicKey.decode_encode (key : PublicKey) : PublicKey.decode key.encode = .ok key :=
  PublicKey.decode_eq_ok_iff.2 key.trim_encode

theorem PublicKey.encode_ne_empty (key : PublicKey) : key.encode ≠ "" := by
  rw [key.encode_eq]
  exact keyText_ne_empty key.modulus key.exponent

/-- The octets of two numbers are read as a key only if they are those of a key that can be used. -/
theorem admissible_of_ofDer? {modulus exponent : Nat} {key : PublicKey}
    (hread : PublicKey.ofDer? (keyDer modulus exponent) = some key) :
    Admissible modulus exponent := by
  rw [PublicKey.ofDer?_eq_some_iff, key.toDer_eq] at hread
  -- The octets are no longer than those of the key that was read, so the numbers can be read too.
  obtain ⟨hmodulus, hexponent⟩ := key.readable
  have hfits := fits_keyDer hmodulus hexponent
  have hkey := numbersOfDer?_keyDer hfits
  rw [← hread] at hfits hkey
  have hnumbers := (numbersOfDer?_keyDer hfits).symm.trans hkey
  obtain ⟨rfl, rfl⟩ := Prod.mk.inj (Option.some.inj hnumbers)
  exact key.admissible

/-- The text of two numbers is read as the key with these numbers, if there is one. -/
theorem decode_keyText (modulus exponent : Nat) :
    PublicKey.decode (keyText modulus exponent) =
      if h : Admissible modulus exponent then .ok ⟨modulus, exponent, h⟩ else .error .notAKey := by
  split
  · next hadmissible =>
      let key : PublicKey := ⟨modulus, exponent, hadmissible⟩
      exact key.encode_eq ▸ key.decode_encode
  · next hshape =>
      have hnone : PublicKey.ofDer? (keyDer modulus exponent) = none := by
        rw [Option.eq_none_iff_forall_ne_some]
        intro key hread
        exact hshape (admissible_of_ofDer? hread)
      have hbytes : Base64.decode? (keyText modulus exponent) = some (keyDer modulus exponent) :=
        Base64.decode?_eq_some_iff.2 rfl
      simp [PublicKey.decode, trim_keyText, hbytes, hnone]

end Muster.Rsa
