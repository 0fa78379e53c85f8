import Muster.ControlPlane.Registry
/-!
Times that move forward. A microsecond later there is another point of time, except at the very end
of the calendar, where the last point stays.
-/
namespace Muster.Time

/-- The first point of time that has no point a microsecond later. -/
def Instant.limit : Instant :=
  ⟨lastSecond, 999999000, by decide⟩

theorem Instant.lt_iff (a b : Instant) :
    a < b ↔ a.seconds < b.seconds ∨ (a.seconds = b.seconds ∧ a.nanos < b.nanos) := Iff.rfl

theorem Instant.lt_irrefl (a : Instant) : ¬ a < a := by
  rw [lt_iff]
  omega

theorem Instant.lt_trans {a b c : Instant} (hab : a < b) (hbc : b < c) : a < c := by
  rw [lt_iff] at *
  omega

theorem Instant.ne_of_lt {a b : Instant} (hlt : a < b) : a ≠ b := by
  rintro rfl
  exact a.lt_irrefl hlt

theorem Instant.lt_microsecondLater_of_within {i : Instant}
    (hwithin : i.nanos + 1000 < i.secondLength)
    (hpoint : Representable i.seconds (i.nanos + 1000)) : i < i.microsecondLater := by
  simp only [microsecondLater, hwithin, ↓reduceIte, ofParts?_eq_some hpoint, Option.getD_some,
    lt_iff, true_and]
  omega

theorem Instant.lt_microsecondLater_of_beyond {i : Instant}
    (hbeyond : ¬ i.nanos + 1000 < i.secondLength)
    (hpoint : Representable (i.seconds + 1) (i.nanos + 1000 - i.secondLength)) :
    i < i.microsecondLater := by
  simp only [microsecondLater, hbeyond, ↓reduceIte, ofParts?_eq_some hpoint, Option.getD_some,
    lt_iff]
  omega

/-- The point a microsecond later is later, or there is none. -/
theorem Instant.microsecondLater_cases (i : Instant) :
    i < i.microsecondLater ∨ i.microsecondLater = i := by
  by_cases hwithin : i.nanos + 1000 < i.secondLength
  · by_cases hpoint : Representable i.seconds (i.nanos + 1000)
    · exact Or.inl (lt_microsecondLater_of_within hwithin hpoint)
    · exact Or.inr (by simp [microsecondLater, hwithin, ofParts?, hpoint])
  · by_cases hpoint : Representable (i.seconds + 1) (i.nanos + 1000 - i.secondLength)
    · exact Or.inl (lt_microsecondLater_of_beyond hwithin hpoint)
    · exact Or.inr (by simp [microsecondLater, hwithin, ofParts?, hpoint])

example : Instant.limit.microsecondLater = Instant.limit := by decide

theorem Instant.lt_microsecondLater {i : Instant} (hlimit : i < Instant.limit) :
    i < i.microsecondLater := by
  have hpoint := i.representable
  rw [lt_iff] at hlimit
  simp only [limit] at hlimit
  by_cases hwithin : i.nanos + 1000 < i.secondLength
  · apply lt_microsecondLater_of_within hwithin
    simp only [Representable, secondLength] at *
    split at hwithin <;> omega
  · apply lt_microsecondLater_of_beyond hwithin
    simp only [Representable, secondLength, firstSecond, lastSecond] at *
    split at hwithin <;> split <;> omega

/-- A time is below the limit if only its second is not the last one. -/
theorem Instant.lt_limit {i : Instant} (hseconds : i.seconds < lastSecond) : i < Instant.limit :=
  Or.inl hseconds

theorem Instant.seconds_microsecondLater_le (i : Instant) :
    i.microsecondLater.seconds ≤ i.seconds + 1 := by
  simp only [microsecondLater, ofParts?]
  split <;> split <;> simp only [Option.getD_some, Option.getD_none] <;> omega

end Muster.Time

namespace Muster.ControlPlane

open Time

theorem laterThan_cases (previous now : Instant) :
    previous < laterThan previous now ∨ laterThan previous now = previous := by
  by_cases hnow : previous < now
  · exact Or.inl (by rwa [laterThan, if_pos hnow])
  · rw [laterThan, if_neg hnow]
    exact previous.microsecondLater_cases

/-- A clock that is ahead leads to a later time, and so does any other as long as there is one. -/
theorem lt_laterThan {previous now : Instant}
    (hlater : previous < now ∨ previous < Instant.limit) : previous < laterThan previous now := by
  by_cases hnow : previous < now
  · rwa [laterThan, if_pos hnow]
  · rw [laterThan, if_neg hnow]
    exact Instant.lt_microsecondLater (hlater.resolve_left hnow)

example : laterThan Instant.epoch Instant.epoch = ⟨0, 1000, by decide⟩ := by decide

theorem seconds_laterThan_le {previous now : Instant} {bound : Int}
    (hprevious : previous.seconds ≤ bound) (hnow : now.seconds ≤ bound) :
    (laterThan previous now).seconds ≤ bound + 1 := by
  have hlater := previous.seconds_microsecondLater_le
  simp only [laterThan]
  split <;> omega

end Muster.ControlPlane
