import Mathlib.Algebra.Order.Group.Abs
import Mathlib.Algebra.Order.Group.Int
import Muster.Time.Clock
/-!
Comparisons of 64-bit seconds that agree with the exact integers. Sums and differences stop at the
ends of the range, but below the greatest second no comparison can tell.
-/
namespace Muster.Time

/-- A time that a clock of 64 signed bits can show. -/
def InRange64 (time : Int) : Prop :=
  leastSecond64 ≤ time ∧ time ≤ greatestSecond64

instance (time : Int) : Decidable (InRange64 time) :=
  inferInstanceAs (Decidable (_ ∧ _))

/-- A window below the greatest second never meets a distance that was cut. -/
theorem distance64_le_iff {window : Int} (hpos : 0 ≤ window)
    (hwindow : window < greatestSecond64) (a b : Int) :
    distance64 a b ≤ window ↔ |a - b| ≤ window := by
  rw [abs_le]
  simp only [distance64, clamp64, leastSecond64, greatestSecond64] at *
  omega

/-- A shifted time may be cut at the greatest second, which no time in the range exceeds. -/
theorem le_shift64_iff {now : Int} (hnow : InRange64 now) {time seconds : Int}
    (hsum : leastSecond64 ≤ time + seconds) :
    now ≤ shift64 time seconds ↔ now ≤ time + seconds := by
  simp only [InRange64, shift64, clamp64, leastSecond64, greatestSecond64] at *
  omega

end Muster.Time
