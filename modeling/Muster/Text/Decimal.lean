/-!
Whole numbers in decimal: their text, and strict reading of a number that has to lie in a range. A
text may begin with a sign; all else must be digits, and then the number must fit.
-/
namespace Muster.Text

/-- Why a text is no number of the range. -/
inductive DecimalError
  | empty
  | invalidDigit
  | tooLarge
  | tooSmall
deriving Repr, DecidableEq

/-- The message for a text that is no number of the range. -/
def DecimalError.message : DecimalError → String
  | .empty => "cannot parse integer from empty string"
  | .invalidDigit => "invalid digit found in string"
  | .tooLarge => "number too large to fit in target type"
  | .tooSmall => "number too small to fit in target type"

def digit? (c : Char) : Option Nat :=
  if '0' ≤ c ∧ c ≤ '9' then some (c.toNat - '0'.toNat) else none

def isDigit (c : Char) : Bool :=
  '0' ≤ c && c ≤ '9'

/-- The number that digits write, most significant first; other characters count as zero. -/
def digitsValue (digits : List Char) : Nat :=
  digits.foldl (fun value c => value * 10 + (digit? c).getD 0) 0

/-- Whole numbers from `low` to `high`. -/
structure Bounds where
  low : Int
  high : Int
deriving Repr, DecidableEq

def Bounds.holds (bounds : Bounds) (n : Int) : Bool :=
  bounds.low ≤ n && n ≤ bounds.high

/-- The ranges of signed numbers of 32 and 64 bits. -/
def bounds32 : Bounds := ⟨-2147483648, 2147483647⟩
def bounds64 : Bounds := ⟨-9223372036854775808, 9223372036854775807⟩

/-- The number of digits read in one direction, positive or negative. Reading stops at the first
position where it fails, and there a character that is no digit counts before the range. -/
def readDigits (bounds : Bounds) (negative : Bool) (digits : List Char) : Except DecimalError Int :=
  digits.foldlM (fun value c =>
    match digit? c with
    | none => .error .invalidDigit
    | some d =>
        let value := if negative then value * 10 - d else value * 10 + d
        if bounds.holds value then .ok value
        else .error (if negative then .tooSmall else .tooLarge)) 0

/-- The number of the range that a text writes. -/
def readInt (bounds : Bounds) (text : String) : Except DecimalError Int :=
  match text.toList with
  | [] => .error .empty
  | ['+'] | ['-'] => .error .invalidDigit
  | '+' :: digits => readDigits bounds false digits
  | '-' :: digits => readDigits bounds true digits
  | digits => readDigits bounds false digits

def natDigits (n : Nat) : List Char :=
  Nat.toDigits 10 n

def ofInt (n : Int) : String :=
  String.ofList (if n < 0 then '-' :: natDigits n.natAbs else natDigits n.natAbs)

/-- The digits of a natural number, filled to a size with zeros on the left. -/
def paddedDigits (size n : Nat) : List Char :=
  let digits := natDigits n
  List.replicate (size - digits.length) '0' ++ digits

end Muster.Text
