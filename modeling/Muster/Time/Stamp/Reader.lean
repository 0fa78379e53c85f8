import Muster.Text.Blank
import Muster.Text.Decimal
import Muster.Time.Instant
/-!
Reading a point of time: a date, `T` or a space, a time of day and an offset from UTC. Reading is
wider than writing: blanks may surround the numbers, which may lack leading zeros, the fraction may
have any length and the offset may be any below a day. Each piece is read off the head of the text and leaves the rest.
-/
namespace Muster.Time

open Muster.Text

/-- A number of at least one and at most so many digits. -/
def takeDigits (most : Nat) (text : List Char) : Option (Nat × List Char) :=
  let digits := (text.take most).takeWhile isDigit
  if digits.isEmpty then none else some (digitsValue digits, text.drop digits.length)

/-- A number of one or two digits, with blanks before it. -/
def takeShort (text : List Char) : Option (Nat × List Char) :=
  takeDigits 2 (dropBlank text)

/-- A year, with blanks before it: four digits at most, or a sign and any number of digits. -/
def takeYear (text : List Char) : Option (Int × List Char) :=
  match dropBlank text with
  | '-' :: rest => (takeDigits rest.length rest).map fun (n, rest) => (-(n : Int), rest)
  | '+' :: rest => (takeDigits rest.length rest).map fun (n, rest) => ((n : Int), rest)
  | rest => (takeDigits 4 rest).map fun (n, rest) => ((n : Int), rest)

/-- The rest behind a mark that may have blanks before it. -/
def takeMark (mark : Char) (text : List Char) : Option (List Char) :=
  match dropBlank text with
  | c :: rest => if c = mark then some rest else none
  | [] => none

/-- A date that exists. -/
def takeDate (text : List Char) : Option (Date × List Char) := do
  let (year, rest) ← takeYear text
  let (month, rest) ← takeShort (← takeMark '-' rest)
  let (day, rest) ← takeShort (← takeMark '-' rest)
  let date : Date := ⟨year, month, day⟩
  if -262143 ≤ year ∧ year ≤ 262142 ∧ date.isValid then some (date, rest) else none

/-- The nanoseconds of a fraction, if there is one: nine digits count, the others are skipped. -/
def takeFraction (text : List Char) : Option (Nat × List Char) :=
  match text with
  | '.' :: rest => do
      let (n, _) ← takeDigits 9 rest
      let digits := rest.takeWhile isDigit
      some (n * Nat.pow 10 (9 - min 9 digits.length), rest.drop digits.length)
  | _ => some (0, text)

/-- The second of the day and the nanoseconds. The sixtieth second of a minute is a leap second. -/
def takeClock (text : List Char) : Option ((Nat × Nat) × List Char) := do
  let (hour, rest) ← takeShort text
  let (minute, rest) ← takeShort (← takeMark ':' rest)
  let (second, rest) ← takeShort (← takeMark ':' rest)
  let (nanos, rest) ← takeFraction rest
  if hour ≤ 23 ∧ minute ≤ 59 ∧ second ≤ 60 then
    let leap := if second = 60 then 1 else 0
    some ((hour * 3600 + minute * 60 + second - leap, nanos + leap * 1000000000), rest)
  else none

/-- A character that may stand between the hours and the minutes of an offset. -/
def isOffsetGap (c : Char) : Bool :=
  c = ':' || isBlank c

def takePair : List Char → Option (Nat × List Char)
  | a :: b :: rest => do some ((← digit? a) * 10 + (← digit? b), rest)
  | _ => none

/-- Hours and minutes behind the sign of an offset, as seconds. -/
def takeOffsetSize (text : List Char) : Option (Int × List Char) := do
  let (hours, rest) ← takePair text
  let (minutes, rest) ← takePair (rest.dropWhile isOffsetGap)
  if hours ≤ 23 ∧ minutes ≤ 59 then some (((hours * 60 + minutes) * 60 : Nat), rest) else none

/-- Do the characters spell the name of the time zone without offset, in letters of any case? -/
def isUtcName (name : List Char) : Bool :=
  name.map Char.toLower = ['u', 't', 'c']

/-- An offset from UTC in seconds. -/
def takeOffset (text : List Char) : Option (Int × List Char) :=
  if isUtcName (text.take 3) then some (0, text.drop 3)
  else match text with
  | 'Z' :: rest | 'z' :: rest => some (0, rest)
  | '+' :: rest => takeOffsetSize rest
  | '-' :: rest | '−' :: rest => (takeOffsetSize rest).map fun (size, rest) => (-size, rest)
  | _ => none

def Instant.ofChars? (text : List Char) : Option Instant := do
  let (date, rest) ← takeDate text
  let rest ← match rest with
    | 'T' :: rest | 't' :: rest | ' ' :: rest => some rest
    | _ => none
  let ((second, nanos), rest) ← takeClock rest
  let (offset, rest) ← takeOffset (dropBlank rest)
  if (dropBlank rest).isEmpty then
    Instant.ofParts? (date.dayNumber * 86400 + second - offset) nanos
  else none

def Instant.ofText? (text : String) : Option Instant :=
  Instant.ofChars? text.toList

end Muster.Time
