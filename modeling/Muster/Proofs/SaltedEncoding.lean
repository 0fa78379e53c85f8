import Muster.Proofs.OctetDigits
import Muster.Rsa.Signature
/-!
Encoded messages. Every modulus that is long enough for the salt has one, of the size and below the
number that it is made for, and it is an encoding of its message: the mask is taken off again by
putting it on a second time, and the bits of the first octet that were cleared were zero before.
-/
namespace Muster.Rsa

open Bytes

/-- The modulus is long enough for a digest and a salt. -/
def HoldsSalt (bits : Nat) : Prop :=
  saltSize + saltSize + 2 ≤ encodedSize bits

theorem length_mask (seed : List UInt8) (length : Nat) : (mask seed length).length = length := by
  have hblocks : ∀ count, ((List.range count).map fun i =>
      Digest.sha256 (seed ++ ofNatPadded 4 i)).flatten.length = count * 32 := by
    intro count
    induction count with
    | zero => rfl
    | succ count ih =>
        rw [List.range_succ, List.map_append, List.flatten_append, List.length_append, ih,
          List.map_singleton, List.flatten_singleton, Digest.length_sha256]
        omega
  rw [mask, List.length_take, hblocks]
  omega

theorem length_xorOctets {xs ys : List UInt8} (hlength : ys.length = xs.length) :
    (xorOctets xs ys).length = xs.length := by
  rw [xorOctets, List.length_zipWith, hlength, Nat.min_self]

/-- What is put on twice is off again. -/
theorem xorOctets_cancel {xs ys : List UInt8} (hlength : ys.length = xs.length) :
    xorOctets (xorOctets xs ys) ys = xs := by
  induction xs generalizing ys with
  | nil =>
      cases ys with
      | nil => rfl
      | cons y ys => cases hlength
  | cons x xs ih =>
      cases ys with
      | nil => cases hlength
      | cons y ys =>
          have hrest := ih (Nat.succ.inj hlength)
          simp only [xorOctets] at hrest
          simp only [xorOctets, List.zipWith_cons_cons, hrest, UInt8.xor_assoc, UInt8.xor_self,
            UInt8.xor_zero]

section Head

variable {bits : Nat}

theorem length_clearHead (octets : List UInt8) : (clearHead bits octets).length = octets.length := by
  cases octets <;> rfl

theorem clearHead_idem (octets : List UInt8) :
    clearHead bits (clearHead bits octets) = clearHead bits octets := by
  cases octets with
  | nil => rfl
  | cons first rest => rw [clearHead, clearHead, UInt8.and_assoc, UInt8.and_self]

/-- Bits that will be cleared may be cleared before as well. -/
theorem and_xor_and (x y m : UInt8) : ((x &&& m) ^^^ y) &&& m = (x ^^^ y) &&& m := by
  apply UInt8.toBitVec_inj.1
  ext i hi
  simp only [UInt8.toBitVec_and, UInt8.toBitVec_xor, BitVec.getElem_and, BitVec.getElem_xor]
  cases x.toBitVec[i] <;> cases y.toBitVec[i] <;> cases m.toBitVec[i] <;> rfl

theorem clearHead_xorOctets_clearHead (xs ys : List UInt8) :
    clearHead bits (xorOctets (clearHead bits xs) ys) = clearHead bits (xorOctets xs ys) := by
  cases xs with
  | nil => rfl
  | cons x xs =>
      cases ys with
      | nil => rfl
      | cons y ys =>
          simp only [xorOctets, clearHead, List.zipWith_cons_cons, and_xor_and]

theorem clearHead_append {front : List UInt8} (hfront : front ≠ []) (rest : List UInt8) :
    clearHead bits (front ++ rest) = clearHead bits front ++ rest := by
  cases front with
  | nil => exact absurd rfl hfront
  | cons first front => rfl

theorem unusedBits_lt (bits : Nat) : 8 * encodedSize bits - (bits - 1) < 8 := by
  rw [encodedSize]
  omega

theorem toNat_headMask (bits : Nat) :
    (headMask bits).toNat = Nat.pow 2 (8 - (8 * encodedSize bits - (bits - 1))) - 1 := by
  have hall : ∀ unused : Fin 8,
      (UInt8.ofNat (0xFF >>> unused.val)).toNat = Nat.pow 2 (8 - unused.val) - 1 := by decide
  exact hall ⟨_, unusedBits_lt bits⟩

theorem one_and_headMask (bits : Nat) : (1 : UInt8) &&& headMask bits = 1 := by
  have hall : ∀ unused : Fin 8, (1 : UInt8) &&& UInt8.ofNat (0xFF >>> unused.val) = 1 := by decide
  exact hall ⟨_, unusedBits_lt bits⟩

/-- Octets without the unused bits write a number of one bit less than the modulus. -/
theorem toNat_lt_of_clearHead {octets : List UInt8} (hclear : clearHead bits octets = octets)
    (hlength : octets.length = encodedSize bits) (hsize : 0 < encodedSize bits) :
    toNat octets < Nat.pow 2 (bits - 1) := by
  cases octets with
  | nil =>
      rw [List.length_nil] at hlength
      omega
  | cons first rest =>
      have hunused := unusedBits_lt bits
      have hfirst : first.toNat + 1 ≤ Nat.pow 2 (8 - (8 * encodedSize bits - (bits - 1))) := by
        have hand := congrArg UInt8.toNat (List.cons.inj hclear).1
        have hle : (first &&& headMask bits).toNat ≤ (headMask bits).toNat := by
          rw [UInt8.toNat_and]
          exact Nat.and_le_right
        have hpositive : 0 < Nat.pow 2 (8 - (8 * encodedSize bits - (bits - 1))) :=
          Nat.pow_pos Nat.two_pos
        rw [hand, toNat_headMask] at hle
        omega
      have hrest := toNat_lt rest
      rw [List.length_cons] at hlength
      calc toNat (first :: rest)
          = first.toNat * Nat.pow 256 rest.length + toNat rest := toNat_cons first rest
        _ < (first.toNat + 1) * Nat.pow 256 rest.length := by
            rw [Nat.add_mul, Nat.one_mul]
            omega
        _ ≤ Nat.pow 2 (8 - (8 * encodedSize bits - (bits - 1))) * Nat.pow 2 (8 * rest.length) := by
            rw [← pow_octets]
            exact Nat.mul_le_mul_right _ hfirst
        _ = Nat.pow 2 (8 - (8 * encodedSize bits - (bits - 1)) + 8 * rest.length) :=
            (Nat.pow_add 2 _ _).symm
        _ = Nat.pow 2 (bits - 1) := by
            congr 1
            rw [encodedSize] at *
            omega

end Head

/-- Zeros, a one and the salt: what the mask is put on. -/
def saltFilling (bits : Nat) (salt : List UInt8) : List UInt8 :=
  List.replicate (encodedSize bits - saltSize - saltSize - 2) 0 ++ 0x01 :: salt

/-- The filling under the mask that a digest makes. -/
def maskedFilling (bits : Nat) (tied salt : List UInt8) : List UInt8 :=
  clearHead bits
    (xorOctets (saltFilling bits salt) (mask tied (saltFilling bits salt).length))

section Encoding

variable {bits : Nat} {salt : List UInt8}

theorem length_saltFilling (hbits : HoldsSalt bits) (hsalt : salt.length = saltSize) :
    (saltFilling bits salt).length = encodedSize bits - saltSize - 1 := by
  rw [HoldsSalt] at hbits
  rw [saltFilling, List.length_append, List.length_replicate, List.length_cons]
  omega

theorem length_maskedFilling (hbits : HoldsSalt bits) (hsalt : salt.length = saltSize)
    (tied : List UInt8) : (maskedFilling bits tied salt).length = encodedSize bits - saltSize - 1 := by
  rw [maskedFilling, length_clearHead, length_xorOctets (length_mask _ _),
    length_saltFilling hbits hsalt]

/-- The bits that are cleared are zero in what the mask is put on. -/
theorem clearHead_saltFilling (bits : Nat) (salt : List UInt8) :
    clearHead bits (saltFilling bits salt) = saltFilling bits salt := by
  rw [saltFilling]
  cases encodedSize bits - saltSize - saltSize - 2 with
  | zero =>
      rw [List.replicate_zero, List.nil_append, clearHead, one_and_headMask]
  | succ count =>
      rw [List.replicate_succ, List.cons_append, clearHead, UInt8.zero_and]

theorem unmask_maskedFilling (bits : Nat) (tied salt : List UInt8) :
    clearHead bits (xorOctets (maskedFilling bits tied salt)
      (mask tied (maskedFilling bits tied salt).length)) = saltFilling bits salt := by
  have hmask := length_mask tied (saltFilling bits salt).length
  have hlength : (maskedFilling bits tied salt).length = (saltFilling bits salt).length := by
    rw [maskedFilling, length_clearHead, length_xorOctets hmask]
  rw [hlength, maskedFilling, clearHead_xorOctets_clearHead, xorOctets_cancel hmask,
    clearHead_saltFilling]

theorem encodeMessage?_eq (hbits : HoldsSalt bits) (hsalt : salt.length = saltSize)
    (message : List UInt8) :
    encodeMessage? bits message salt =
      some (maskedFilling bits (saltedDigest (Digest.sha256 message) salt) salt ++
        saltedDigest (Digest.sha256 message) salt ++ [0xBC]) := by
  rw [HoldsSalt] at hbits
  have hfits : ¬ encodedSize bits < saltSize + saltSize + 2 := by omega
  simp only [encodeMessage?, maskedFilling, saltFilling, hsalt, if_neg hfits]

theorem saltFilling_parts (bits : Nat) (salt : List UInt8) :
    (saltFilling bits salt).take (encodedSize bits - saltSize - saltSize - 2) =
        List.replicate (encodedSize bits - saltSize - saltSize - 2) 0 ∧
      (saltFilling bits salt)[encodedSize bits - saltSize - saltSize - 2]? = some 0x01 ∧
      (saltFilling bits salt).drop (encodedSize bits - saltSize - saltSize - 2 + 1) = salt := by
  rw [saltFilling]
  generalize encodedSize bits - saltSize - saltSize - 2 = zeros
  refine ⟨?_, ?_, ?_⟩
  · exact List.take_left' List.length_replicate
  · rw [List.getElem?_append_right (Nat.le_of_eq List.length_replicate), List.length_replicate,
      Nat.sub_self, List.getElem?_cons_zero]
  · rw [← List.drop_drop, List.drop_left' List.length_replicate, List.drop_one, List.tail_cons]

/-- Three parts of the right lengths are an encoding if the mask comes off the first and leaves zeros,
a one and a salt that the second is the digest of. -/
theorem isEncoding_append (hbits : HoldsSalt bits) {message masked tied : List UInt8}
    (hmasked : masked.length = encodedSize bits - saltSize - 1) (htied : tied.length = saltSize)
    (hclear : clearHead bits masked = masked)
    (hfilling : clearHead bits (xorOctets masked (mask tied masked.length)) = saltFilling bits salt)
    (hdigest : saltedDigest (Digest.sha256 message) salt = tied) :
    isEncoding bits message (masked ++ tied ++ [0xBC]) = true := by
  rw [HoldsSalt] at hbits
  have hlength : (masked ++ tied ++ [0xBC]).length = encodedSize bits := by
    rw [List.length_append, List.length_append, hmasked, htied, List.length_singleton]
    omega
  have hlast : (masked ++ tied ++ [0xBC]).getLast? = some 0xBC := List.getLast?_concat
  have hfront : (masked ++ tied ++ [0xBC]).take (encodedSize bits - saltSize - 1) = masked := by
    rw [List.append_assoc, ← hmasked, List.take_left]
  have hmiddle : ((masked ++ tied ++ [0xBC]).drop (encodedSize bits - saltSize - 1)).take saltSize =
      tied := by
    rw [List.append_assoc, ← hmasked, List.drop_left, ← htied, List.take_left]
  have hsound : ¬ (encodedSize bits < saltSize + saltSize + 2 ∨
      (masked ++ tied ++ [0xBC]).length ≠ encodedSize bits ∨
        (masked ++ tied ++ [0xBC]).getLast? ≠ some 0xBC) := by
    rintro (hshort | hother | hother)
    · omega
    · exact hother hlength
    · exact hother hlast
  obtain ⟨hzeros, hone, hrest⟩ := saltFilling_parts bits salt
  simp only [isEncoding, if_neg hsound, hfront, hmiddle, hclear, hfilling, hzeros, hone, hrest,
    hdigest, decide_true, Bool.and_self]

theorem encodeMessage?_spec (hbits : HoldsSalt bits) (hsalt : salt.length = saltSize)
    (message : List UInt8) :
    ∃ encoded, encodeMessage? bits message salt = some encoded ∧
      encoded.length = encodedSize bits ∧ toNat encoded < Nat.pow 2 (bits - 1) ∧
      isEncoding bits message encoded = true := by
  obtain ⟨tied, hdigest⟩ : ∃ tied, saltedDigest (Digest.sha256 message) salt = tied := ⟨_, rfl⟩
  have htied : tied.length = saltSize := hdigest ▸ Digest.length_sha256 _
  have hmasked := length_maskedFilling hbits hsalt tied
  have hclear : clearHead bits (maskedFilling bits tied salt) = maskedFilling bits tied salt :=
    clearHead_idem _
  have hencodes :=
    isEncoding_append hbits hmasked htied hclear (unmask_maskedFilling bits tied salt) hdigest
  have hsome := encodeMessage?_eq hbits hsalt message
  rw [hdigest] at hsome
  rw [HoldsSalt] at hbits
  have hlength : (maskedFilling bits tied salt ++ tied ++ [0xBC]).length = encodedSize bits := by
    rw [List.length_append, List.length_append, hmasked, htied, List.length_singleton]
    omega
  refine ⟨_, hsome, hlength, ?_, hencodes⟩
  apply toNat_lt_of_clearHead _ hlength (by omega)
  have hnonempty : maskedFilling bits tied salt ≠ [] := by
    intro hempty
    rw [hempty, List.length_nil] at hmasked
    omega
  rw [List.append_assoc, clearHead_append hnonempty, hclear]

end Encoding

end Muster.Rsa
