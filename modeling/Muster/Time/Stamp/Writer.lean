import Muster.Text.Decimal
import Muster.Time.Instant
/-!
The text of a point of time: date and time of day in UTC, closed by `Z`. The fraction has 0, 3, 6 or
9 digits, the fewest that are exact; a year outside 0 to 9999 carries its sign.
-/
namespace Muster.Time

open Muster.Text

/-- The digits of a year: four of them, and a sign in front where four do not do. -/
def yearText (year : Int) : List Char :=
  if 0 ≤ year ∧ year ≤ 9999 then paddedDigits 4 year.toNat
  else (if year < 0 then '-' else '+') :: paddedDigits 4 year.natAbs

/-- The fraction of a second behind its point. -/
def fractionText (nanos : Nat) : List Char :=
  if nanos = 0 then []
  else if nanos % 1000000 = 0 then '.' :: paddedDigits 3 (nanos / 1000000)
  else if nanos % 1000 = 0 then '.' :: paddedDigits 6 (nanos / 1000)
  else '.' :: paddedDigits 9 nanos

def Date.chars (date : Date) : List Char :=
  yearText date.year ++ '-' :: paddedDigits 2 date.month ++ '-' :: paddedDigits 2 date.day

/-- The characters of a second of the day; a leap second is the sixtieth of its minute. -/
def clockChars (second nanos : Nat) : List Char :=
  let leap := if nanos < 1000000000 then 0 else 1
  paddedDigits 2 (second / 3600) ++ ':' :: paddedDigits 2 (second / 60 % 60) ++
    ':' :: paddedDigits 2 (second % 60 + leap) ++ fractionText (nanos - leap * 1000000000)

def Instant.chars (i : Instant) : List Char :=
  (Date.ofDayNumber (i.seconds / 86400)).chars ++ 'T' ::
    clockChars (i.seconds % 86400).toNat i.nanos ++ ['Z']

def Instant.text (i : Instant) : String :=
  String.ofList i.chars

end Muster.Time
