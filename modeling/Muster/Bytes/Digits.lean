/-!
Natural numbers as big-endian octets. The text of a number is the shortest one, except where a
format asks for a size, and then it is filled with zero octets on the left.
-/
namespace Muster.Bytes

/-- The number that the octets write in base 256, most significant first. -/
def toNat (bytes : List UInt8) : Nat :=
  bytes.foldl (fun value b => value * 256 + b.toNat) 0

/-- The octets of a number put before those given; at most `count` of them. -/
def pushDigits : Nat → Nat → List UInt8 → List UInt8
  | 0, _, tail => tail
  | count + 1, n, tail =>
      if n = 0 then tail else pushDigits count (n / 256) (UInt8.ofNat n :: tail)

/-- The octets of a number without leading zeros; none for zero. -/
def ofNat (n : Nat) : List UInt8 :=
  pushDigits (n.log2 / 8 + 1) n []

/-- How many octets a number has: its bit length over eight, rounded up. -/
def width (n : Nat) : Nat :=
  (ofNat n).length

/-- The bit length of a number; zero for zero. -/
def bitLength (n : Nat) : Nat :=
  if n = 0 then 0 else n.log2 + 1

/-- The octets of a number filled to a size with zeros on the left. -/
def ofNatPadded (size n : Nat) : List UInt8 :=
  let digits := ofNat n
  List.replicate (size - digits.length) 0 ++ digits

theorem toNat_append (xs ys : List UInt8) :
    toNat (xs ++ ys) = toNat xs * Nat.pow 256 ys.length + toNat ys := by
  have shift : ∀ (zs : List UInt8) (start : Nat),
      zs.foldl (fun value b => value * 256 + b.toNat) start =
        start * Nat.pow 256 zs.length + toNat zs := by
    intro zs
    induction zs with
    | nil => intro start; simp [toNat]
    | cons z rest ih =>
        intro start
        simp only [List.foldl_cons, List.length_cons, toNat]
        rw [ih, ih (0 * 256 + z.toNat)]
        have hpower : Nat.pow 256 (rest.length + 1) = Nat.pow 256 rest.length * 256 := rfl
        rw [hpower]
        simp only [Nat.add_mul, Nat.mul_assoc, Nat.zero_mul, Nat.zero_add]
        rw [Nat.mul_comm 256 (Nat.pow 256 rest.length)]
        omega
  rw [toNat, List.foldl_append, shift]
  rfl

end Muster.Bytes
