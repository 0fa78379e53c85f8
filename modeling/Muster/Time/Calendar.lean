/-!
Dates of the Gregorian calendar, extended to all years, and the day numbers counted from 1970-01-01.
Years are reckoned from March, so that the leap day is the last day of its year.
-/
namespace Muster.Time

/-- A year, a month from 1 to 12 and a day of the month. -/
structure Date where
  year : Int
  month : Nat
  day : Nat
deriving Repr, DecidableEq

def isLeapYear (year : Int) : Bool :=
  year % 4 = 0 && (year % 100 ≠ 0 || year % 400 = 0)

/-- The days of a month; none for a number that is no month. -/
def daysInMonth (year : Int) (month : Nat) : Nat :=
  if month = 2 then (if isLeapYear year then 29 else 28)
  else if month = 4 ∨ month = 6 ∨ month = 9 ∨ month = 11 then 30
  else if 1 ≤ month ∧ month ≤ 12 then 31
  else 0

def Date.isValid (date : Date) : Bool :=
  1 ≤ date.day && date.day ≤ daysInMonth date.year date.month

/-- The days from 1 March of the year 0 to 1 March of a year. -/
def yearStart (year : Int) : Int :=
  365 * year + year / 4 - year / 100 + year / 400

/-- The days from 1 March to the first day of a month, counted from 0 for March to 11. -/
def monthStart (month : Nat) : Nat :=
  (153 * month + 2) / 5

/-- The days from 1 March of the year 0 to 1 January 1970. -/
def epochDay : Int := 719468

def Date.dayNumber (date : Date) : Int :=
  let year := if date.month ≤ 2 then date.year - 1 else date.year
  yearStart year + monthStart ((date.month + 9) % 12) + date.day - 1 - epochDay

/-- The year, reckoned from March, that holds a day counted from 1 March of the year 0. The mean
length of a year gives it up to one. -/
def yearOf (day : Int) : Int :=
  let guess := day * 400 / 146097
  if day < yearStart guess then guess - 1
  else if yearStart (guess + 1) ≤ day then guess + 1
  else guess

def Date.ofDayNumber (number : Int) : Date :=
  let day := number + epochDay
  let year := yearOf day
  let inYear := (day - yearStart year).toNat
  let month := (5 * inYear + 2) / 153
  let dayOfMonth := inYear - monthStart month + 1
  if month < 10 then ⟨year, month + 3, dayOfMonth⟩ else ⟨year + 1, month - 9, dayOfMonth⟩

example : Date.dayNumber ⟨1970, 1, 1⟩ = 0 := by decide
example : Date.ofDayNumber 19782 = ⟨2024, 2, 29⟩ := by decide

/-- The estimated year is the one that the day lies in. -/
theorem yearStart_yearOf_le (day : Int) :
    yearStart (yearOf day) ≤ day ∧ day < yearStart (yearOf day + 1) := by
  simp only [yearOf]
  split
  · simp only [yearStart] at *
    omega
  · split
    · simp only [yearStart] at *
      omega
    · omega

end Muster.Time
