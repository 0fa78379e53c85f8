import Muster.Time.Calendar
/-!
Points of time in UTC, to the nanosecond, within the years -262143 to 262142. A leap second is the
last second of its minute with more than 10^9 nanoseconds. Any other second may be given as many,
though no clock shows that: such a point has the same text as one in the second behind it.
-/
namespace Muster.Time

/-- The first and the last second that can be named. -/
def firstSecond : Int := -8334601228800
def lastSecond : Int := 8210266876799

/-- The seconds since 1970 and the nanoseconds that name a point of time. -/
def Representable (seconds : Int) (nanos : Nat) : Prop :=
  firstSecond ≤ seconds ∧ seconds ≤ lastSecond ∧ nanos < 2000000000

instance (seconds : Int) (nanos : Nat) : Decidable (Representable seconds nanos) := by
  unfold Representable; infer_instance

/-- A point of time. -/
structure Instant where
  seconds : Int
  nanos : Nat
  representable : Representable seconds nanos
deriving DecidableEq

def Instant.ofParts? (seconds : Int) (nanos : Nat) : Option Instant :=
  if h : Representable seconds nanos then some ⟨seconds, nanos, h⟩ else none

def Instant.epoch : Instant :=
  ⟨0, 0, by decide⟩

instance : Inhabited Instant := ⟨Instant.epoch⟩

/-- Only a leap second has more nanoseconds than other seconds. -/
def Instant.IsRegular (i : Instant) : Prop :=
  i.nanos < 1000000000 ∨ i.seconds % 60 = 59

instance (i : Instant) : Decidable i.IsRegular :=
  inferInstanceAs (Decidable (_ ∨ _))

/-- What lies beyond a second that is no leap second is in the next one. -/
def Instant.settled (i : Instant) : Instant :=
  if h : i.IsRegular then i
  else ⟨i.seconds + 1, i.nanos - 1000000000, by
    have hi := i.representable
    simp only [Representable, firstSecond, lastSecond, IsRegular] at *
    omega⟩

theorem Instant.settled_isRegular (i : Instant) : i.settled.IsRegular := by
  rw [settled]
  split
  · assumption
  · have hi := i.representable
    simp only [Representable, IsRegular] at *
    omega

theorem Instant.settled_eq_self_iff (i : Instant) : i.settled = i ↔ i.IsRegular := by
  constructor
  · intro hsame
    rw [← hsame]
    exact i.settled_isRegular
  · intro hregular
    rw [settled, dif_pos hregular]

/-- A point of time as a clock shows it. -/
structure ClockTime extends Instant where
  regular : toInstant.IsRegular
deriving DecidableEq

instance : Coe ClockTime Instant := ⟨ClockTime.toInstant⟩

def Instant.clockTime (i : Instant) : ClockTime :=
  ⟨i.settled, i.settled_isRegular⟩

def ClockTime.epoch : ClockTime :=
  ⟨.epoch, by decide⟩

/-- Earlier points come first. -/
instance : LT Instant :=
  ⟨fun a b => a.seconds < b.seconds ∨ (a.seconds = b.seconds ∧ a.nanos < b.nanos)⟩

instance (a b : Instant) : Decidable (a < b) :=
  inferInstanceAs (Decidable (_ ∨ _))

/-- The nanoseconds that the second of a point has: twice as many in a leap second. -/
def Instant.secondLength (i : Instant) : Nat :=
  if i.nanos < 1000000000 then 1000000000 else 2000000000

/-- The point one microsecond later. The last representable point stays where it is. -/
def Instant.microsecondLater (i : Instant) : Instant :=
  let nanos := i.nanos + 1000
  let later :=
    if nanos < i.secondLength then Instant.ofParts? i.seconds nanos
    else Instant.ofParts? (i.seconds + 1) (nanos - i.secondLength)
  later.getD i

theorem Instant.ofParts?_eq_some {seconds : Int} {nanos : Nat}
    (h : Representable seconds nanos) :
    Instant.ofParts? seconds nanos = some ⟨seconds, nanos, h⟩ := by
  simp [Instant.ofParts?, h]

end Muster.Time
