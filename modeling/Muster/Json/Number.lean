import Muster.Text.Shortest
/-!
JSON numbers: the digits as written, and what they amount to. A number without fraction and exponent
is whole as long as 64 bits hold it; every other one is a floating-point number. That is found by
scaling the first digits that 64 bits hold by a power of ten, which is quick and nearly exact.
-/
namespace Muster.Json

open Muster.Text

/-- A number as it is written. The fraction is empty where there is no point; the exponent has a
flag for a minus sign. -/
structure Numeral where
  negative : Bool
  whole : List Char
  fraction : List Char
  exponent : Option (Bool × List Char)
deriving Repr, DecidableEq

/-- What a number amounts to. -/
inductive Amount
  | whole (n : Int)
  | float (x : Float)
  | beyond
deriving Repr, Inhabited

/-- The digits put behind a number as long as 64 bits hold it, and how many were. -/
def absorb (n : Nat) : List Char → Nat × Nat
  | [] => (n, 0)
  | c :: rest =>
      let next := n * 10 + (digit? c).getD 0
      if next < UInt64.size then
        let (total, count) := absorb next rest
        (total, count + 1)
      else (n, 0)

/-- The power of ten as a floating-point number, for exponents up to 308. -/
def powerOfTen (exponent : Nat) : Float :=
  Float.ofScientific 1 false exponent

/-- A number divided by a power of ten, in steps of 308 decimal places. -/
def scaleDown (x : Float) (exponent : Nat) : Float :=
  if exponent ≤ 308 then x / powerOfTen exponent
  else if x == 0 then x
  else scaleDown (x / powerOfTen 308) (exponent - 308)
  termination_by exponent
  decreasing_by omega

/-- A 64-bit number times a power of ten, unless it leaves the range. -/
def scale (significand : Nat) (exponent : Int) : Amount :=
  let x := (UInt64.ofNat significand).toFloat
  if exponent < 0 then .float (scaleDown x exponent.natAbs)
  else if exponent ≤ 308 then
    let scaled := x * powerOfTen exponent.toNat
    if scaled.isInf then .beyond else .float scaled
  else if significand = 0 then .float x
  else .beyond

def Amount.negate : Amount → Amount
  | .whole n => .whole (-n)
  | .float x => .float (-x)
  | .beyond => .beyond

/-- The amount without its sign. An exponent of more than 31 bits is beyond every range, or zero. -/
def Numeral.magnitude (n : Numeral) : Amount :=
  let (head, taken) := absorb 0 n.whole
  let dropped := n.whole.length - taken
  if n.fraction.isEmpty ∧ n.exponent.isNone ∧ dropped = 0 then .whole head
  else
    let (significand, places) := absorb head n.fraction
    let exponent : Int := (dropped : Int) - places
    match n.exponent with
    | none => scale significand exponent
    | some (negative, digits) =>
        let size := digitsValue digits
        if Nat.pow 2 31 ≤ size then (if significand = 0 ∨ negative then .float 0 else .beyond)
        else scale significand (if negative then exponent - size else exponent + size)

/-- What the number amounts to. Minus zero and whole numbers below 64 signed bits are
floating-point numbers. -/
def Numeral.amount (n : Numeral) : Amount :=
  if n.negative then
    match n.magnitude with
    | .whole 0 => .float (-0.0)
    | .whole size => if size ≤ 9223372036854775808 then .whole (-size) else
        .float (-(UInt64.ofNat size.toNat).toFloat)
    | amount => amount.negate
  else n.magnitude

/-- A number in a message keeps its fraction, and has an exponent below 10^-5 and from 10^16 on. -/
def messageStyle : FloatStyle := ⟨-5, 15, true⟩

def Numeral.ofInt (n : Int) : Numeral :=
  ⟨n < 0, natDigits n.natAbs, [], none⟩

end Muster.Json
