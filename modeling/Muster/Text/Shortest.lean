import Muster.Text.Decimal
/-!
The shortest decimal of a floating-point number: of all decimals that read back as the number, those
with the fewest digits, and of these the nearest. A number m * 2^q stands for the reals between the
midpoints to its neighbours, the midpoints themselves belonging to an even m; grids of 1, 2, ...
digits are tried until one has a point among them.
-/
namespace Muster.Text

/-- The number `coefficient * 10 ^ exponent`. -/
structure DecimalNumber where
  coefficient : Nat
  exponent : Int
deriving Repr, DecidableEq

/-- The reals that round to one number, over a common denominator. -/
structure Interval where
  low : Nat
  value : Nat
  high : Nat
  denominator : Nat
  closed : Bool
deriving Repr, DecidableEq

/-- The interval of `mantissa * 2 ^ exponent`. Below a power of two the neighbour is only half as
far away, except at the smallest exponent. -/
def Interval.ofBinary (mantissa : Nat) (exponent : Int) (atPower : Bool) : Interval :=
  let quarter := exponent - 2
  let factor := Nat.pow 2 quarter.toNat
  let low := 4 * mantissa - (if atPower then 1 else 2)
  ⟨low * factor, 4 * mantissa * factor, (4 * mantissa + 2) * factor, Nat.pow 2 (-quarter).toNat,
    mantissa % 2 = 0⟩

def Interval.inUnits (i : Interval) (unit : Int) : Interval :=
  let up := Nat.pow 10 (-unit).toNat
  ⟨i.low * up, i.value * up, i.high * up, i.denominator * Nat.pow 10 unit.toNat, i.closed⟩

def Interval.contains (i : Interval) (n : Nat) : Bool :=
  let point := n * i.denominator
  if i.closed then i.low ≤ point && point ≤ i.high else i.low < point && point < i.high

/-- The natural number in the interval that is nearest to its value; of two equally near ones the
even one. Only the two neighbours of the value can be it. -/
def Interval.nearest? (i : Interval) : Option Nat :=
  let below := i.value / i.denominator
  let above := below + 1
  match i.contains below, i.contains above with
  | true, true =>
      let down := i.value - below * i.denominator
      let up := above * i.denominator - i.value
      some (if down < up ∨ (down = up ∧ below % 2 = 0) then below else above)
  | true, false => some below
  | false, true => some above
  | false, false => none

/-- The exponent of the first decimal digit of the value. -/
def Interval.magnitude (i : Interval) : Int :=
  if i.denominator ≤ i.value then ((natDigits (i.value / i.denominator)).length : Int) - 1
  else -leadingZeros 400 1 i.value
where
  leadingZeros : Nat → Nat → Nat → Nat
    | 0, count, _ => count
    | fuel + 1, count, scaled =>
        if i.denominator ≤ scaled * 10 then count
        else leadingZeros fuel (count + 1) (scaled * 10)

/-- The number without zeros at the end of its coefficient; at most `fuel` are removed. -/
def DecimalNumber.strip : Nat → DecimalNumber → DecimalNumber
  | 0, d => d
  | fuel + 1, d =>
      if d.coefficient ≠ 0 ∧ d.coefficient % 10 = 0 then
        strip fuel ⟨d.coefficient / 10, d.exponent + 1⟩
      else d

/-- The shortest decimal of an interval. Seventeen digits always suffice for 53 bits. -/
def Interval.shortest (i : Interval) : DecimalNumber :=
  let top := i.magnitude
  let grids := (List.range 17).map fun (k : Nat) => top - k
  let hits := grids.filterMap fun unit =>
    ((i.inUnits unit).nearest?).map fun n => (⟨n, unit⟩ : DecimalNumber)
  (hits.head?.getD ⟨0, 0⟩).strip 400

/-- The shortest decimal of the absolute value of a finite number. -/
def shortestDecimal (x : Float) : DecimalNumber :=
  let bits : Nat := x.toBits.toNat % Nat.pow 2 63
  let fraction : Nat := bits % Nat.pow 2 52
  let scale : Nat := bits / Nat.pow 2 52
  if bits = 0 then ⟨0, 0⟩
  else if scale = 0 then (Interval.ofBinary fraction (-1074) false).shortest
  else
    let atPower := fraction = 0 && scale ≠ 1
    (Interval.ofBinary (Nat.pow 2 52 + fraction) ((scale : Int) - 1075) atPower).shortest

/-- How a floating-point number is shown: between which exponents of the first digit without an
exponent, and whether a whole number keeps a fraction. -/
structure FloatStyle where
  positionalFrom : Int
  positionalTo : Int
  keepsFraction : Bool
deriving Repr, DecidableEq

/-- The digits before and behind the point of a number written without an exponent. -/
def DecimalNumber.positional (d : DecimalNumber) : List Char × List Char :=
  let digits := natDigits d.coefficient
  if 0 ≤ d.exponent then (digits ++ List.replicate d.exponent.toNat '0', [])
  else
    let places := (-d.exponent).toNat
    let padded := List.replicate (places + 1 - digits.length) '0' ++ digits
    (padded.take (padded.length - places), padded.drop (padded.length - places))

/-- The digits of a number written with an exponent: one of them before the point. -/
def DecimalNumber.scientific (d : DecimalNumber) : List Char :=
  let digits := natDigits d.coefficient
  let power := d.exponent + digits.length - 1
  let mark := if power < 0 then '-' else '+'
  let tail := digits.drop 1
  digits.take 1 ++ (if tail.isEmpty then [] else '.' :: tail) ++ 'e' :: mark ::
    natDigits power.natAbs

def floatText (style : FloatStyle) (x : Float) : String :=
  let d := shortestDecimal x
  let sign := if x.toBits.toNat < Nat.pow 2 63 then [] else ['-']
  let power := d.exponent + (natDigits d.coefficient).length - 1
  let body :=
    if style.positionalFrom ≤ power ∧ power ≤ style.positionalTo then
      let (whole, fraction) := d.positional
      let fraction := if fraction.isEmpty ∧ style.keepsFraction then ['0'] else fraction
      whole ++ (if fraction.isEmpty then [] else '.' :: fraction)
    else d.scientific
  String.ofList (sign ++ body)

end Muster.Text
