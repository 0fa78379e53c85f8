import Muster.Bytes.Digits
/-!
Numbers and their big-endian octets. The octets of a number write that number, there are no more of
them than its size asks for, and two lists of one length that write the same number are the same.
-/
namespace Muster.Bytes

theorem toNat_cons (b : UInt8) (bytes : List UInt8) :
    toNat (b :: bytes) = b.toNat * Nat.pow 256 bytes.length + toNat bytes := by
  have hfirst : toNat [b] = b.toNat := by
    rw [toNat, List.foldl_cons, List.foldl_nil, Nat.zero_mul, Nat.zero_add]
  have happend := toNat_append [b] bytes
  rwa [hfirst, List.singleton_append] at happend

theorem pow_length_succ (size : Nat) : Nat.pow 256 (size + 1) = Nat.pow 256 size * 256 := rfl

theorem div_lt_pow {size n : Nat} (hn : n < Nat.pow 256 (size + 1)) :
    n / 256 < Nat.pow 256 size :=
  (Nat.div_lt_iff_lt_mul (by decide)).2 hn

theorem toNat_lt (bytes : List UInt8) : toNat bytes < Nat.pow 256 bytes.length := by
  induction bytes with
  | nil => exact Nat.one_pos
  | cons b bytes ih =>
      have hfirst := Nat.mul_le_mul_right (Nat.pow 256 bytes.length)
        (Nat.le_of_lt_succ b.toNat_lt : b.toNat ≤ 255)
      rw [toNat_cons, List.length_cons, pow_length_succ]
      omega

theorem eq_of_toNat_eq {xs ys : List UInt8} (hlength : xs.length = ys.length)
    (hvalue : toNat xs = toNat ys) : xs = ys := by
  induction xs generalizing ys with
  | nil => exact (List.length_eq_zero_iff.1 hlength.symm).symm
  | cons x xs ih =>
      cases ys with
      | nil => cases hlength
      | cons y ys =>
          have hrest : xs.length = ys.length := Nat.succ.inj hlength
          have hxs := toNat_lt xs
          have hys := toNat_lt ys
          rw [toNat_cons, toNat_cons, hrest] at hvalue
          rw [hrest] at hxs
          have hfirst : x.toNat = y.toNat := by
            have hquotient := congrArg (· / Nat.pow 256 ys.length) hvalue
            have hpositive : 0 < Nat.pow 256 ys.length := Nat.zero_lt_of_lt hys
            simp only [Nat.mul_comm _ (Nat.pow 256 ys.length), Nat.mul_add_div hpositive,
              Nat.div_eq_of_lt hxs, Nat.div_eq_of_lt hys, Nat.add_zero] at hquotient
            exact hquotient
          rw [hfirst] at hvalue
          rw [UInt8.toNat_inj.1 hfirst, ih hrest (Nat.add_left_cancel hvalue)]

theorem pushDigits_zero (count : Nat) (tail : List UInt8) : pushDigits count 0 tail = tail := by
  cases count <;> rfl

theorem pushDigits_pos {n : Nat} (hn : n ≠ 0) (count : Nat) (tail : List UInt8) :
    pushDigits (count + 1) n tail = pushDigits count (n / 256) (UInt8.ofNat n :: tail) := by
  rw [pushDigits, if_neg hn]

/-- Digits put before a list move its number up and add theirs, if there is room for all of them. -/
theorem toNat_pushDigits {count n : Nat} (hn : n < Nat.pow 256 count) (tail : List UInt8) :
    toNat (pushDigits count n tail) = n * Nat.pow 256 tail.length + toNat tail := by
  induction count generalizing n tail with
  | zero =>
      obtain rfl : n = 0 := Nat.lt_one_iff.1 hn
      rw [pushDigits_zero, Nat.zero_mul, Nat.zero_add]
  | succ count ih =>
      by_cases hzero : n = 0
      · rw [hzero, pushDigits_zero, Nat.zero_mul, Nat.zero_add]
      · have hrest := div_lt_pow hn
        have hdigit : (UInt8.ofNat n).toNat = n % 256 := UInt8.toNat_ofNat'
        have hsplit : n / 256 * 256 + n % 256 = n := Nat.div_add_mod' n 256
        calc toNat (pushDigits (count + 1) n tail)
            = n / 256 * (Nat.pow 256 tail.length * 256) +
                (n % 256 * Nat.pow 256 tail.length + toNat tail) := by
              rw [pushDigits_pos hzero, ih hrest, List.length_cons, pow_length_succ, toNat_cons,
                hdigit]
          _ = (n / 256 * 256 + n % 256) * Nat.pow 256 tail.length + toNat tail := by
              rw [Nat.add_mul, Nat.mul_assoc, Nat.mul_comm 256, Nat.add_assoc]
          _ = n * Nat.pow 256 tail.length + toNat tail := by rw [hsplit]

theorem length_pushDigits_le {size n : Nat} (hn : n < Nat.pow 256 size) (count : Nat)
    (tail : List UInt8) : (pushDigits count n tail).length ≤ size + tail.length := by
  induction count generalizing n size tail with
  | zero => exact Nat.le_add_left _ _
  | succ count ih =>
      by_cases hzero : n = 0
      · rw [hzero, pushDigits_zero]
        exact Nat.le_add_left _ _
      · cases size with
        | zero => exact absurd (Nat.lt_one_iff.1 hn) hzero
        | succ size =>
            have hlength := ih (div_lt_pow hn) (UInt8.ofNat n :: tail)
            rw [pushDigits_pos hzero]
            rw [List.length_cons] at hlength
            omega

theorem pow_octets (size : Nat) : Nat.pow 256 size = Nat.pow 2 (8 * size) := by
  rw [Nat.pow_eq, Nat.pow_eq, Nat.pow_mul]

theorem pow_two_le {low high : Nat} (hle : low ≤ high) : Nat.pow 2 low ≤ Nat.pow 2 high :=
  Nat.pow_le_pow_right Nat.two_pos hle

/-- There is room for every digit of a number. -/
theorem lt_pow_log2 (n : Nat) : n < Nat.pow 256 (n.log2 / 8 + 1) := by
  have hbits : n < Nat.pow 2 (n.log2 + 1) := Nat.lt_log2_self
  rw [pow_octets]
  exact Nat.lt_of_lt_of_le hbits (pow_two_le (by omega))

theorem toNat_ofNat (n : Nat) : toNat (ofNat n) = n := by
  rw [ofNat, toNat_pushDigits (lt_pow_log2 n), List.length_nil, toNat, List.foldl_nil, Nat.add_zero]
  exact Nat.mul_one n

theorem lt_pow_width (n : Nat) : n < Nat.pow 256 (width n) := by
  have hlt := toNat_lt (ofNat n)
  rwa [toNat_ofNat] at hlt

theorem width_le {size n : Nat} (hn : n < Nat.pow 256 size) : width n ≤ size :=
  length_pushDigits_le hn _ []

theorem width_pos {n : Nat} (hn : n ≠ 0) : 0 < width n := by
  rcases Nat.eq_zero_or_pos (width n) with hzero | hpos
  · have hlt := lt_pow_width n
    rw [hzero] at hlt
    exact absurd (Nat.lt_one_iff.1 hlt) hn
  · exact hpos

theorem lt_pow_bitLength (n : Nat) : n < Nat.pow 2 (bitLength n) := by
  rw [bitLength]
  split
  · next hzero =>
      rw [hzero]
      exact Nat.one_pos
  · exact Nat.lt_log2_self

/-- A number of so many bits has the octets that hold them. -/
theorem width_le_of_bitLength {size n : Nat} (hn : bitLength n ≤ 8 * size) : width n ≤ size := by
  apply width_le
  rw [pow_octets]
  exact Nat.lt_of_lt_of_le (lt_pow_bitLength n) (pow_two_le hn)

theorem width_mono {small large : Nat} (hle : small ≤ large) : width small ≤ width large :=
  width_le (Nat.lt_of_le_of_lt hle (lt_pow_width large))

theorem pow_bitLength_le {n : Nat} (hn : n ≠ 0) : Nat.pow 2 (bitLength n - 1) ≤ n := by
  rw [bitLength, if_neg hn, Nat.add_sub_cancel]
  exact Nat.log2_self_le hn

theorem length_ofNatPadded {size n : Nat} (hn : n < Nat.pow 256 size) :
    (ofNatPadded size n).length = size := by
  have hwidth : (ofNat n).length ≤ size := width_le hn
  rw [ofNatPadded, List.length_append, List.length_replicate]
  omega

theorem toNat_replicate_append (count : Nat) (bytes : List UInt8) :
    toNat (List.replicate count 0 ++ bytes) = toNat bytes := by
  induction count with
  | zero => rfl
  | succ count ih =>
      rw [List.replicate_succ, List.cons_append, toNat_cons, ih]
      exact Nat.zero_mul _ ▸ Nat.zero_add _

theorem toNat_ofNatPadded (size n : Nat) : toNat (ofNatPadded size n) = n := by
  rw [ofNatPadded, toNat_replicate_append, toNat_ofNat]

/-- The number that some octets write, filled to a size, is those octets behind zeros. -/
theorem ofNatPadded_toNat {size : Nat} {bytes : List UInt8} (hlength : bytes.length ≤ size) :
    ofNatPadded size (toNat bytes) = List.replicate (size - bytes.length) 0 ++ bytes := by
  have hlt : toNat bytes < Nat.pow 256 size :=
    Nat.lt_of_lt_of_le (toNat_lt bytes) (Nat.pow_le_pow_right (by decide) hlength)
  apply eq_of_toNat_eq
  · rw [length_ofNatPadded hlt, List.length_append, List.length_replicate]
    omega
  · rw [toNat_ofNatPadded, toNat_replicate_append]

end Muster.Bytes
