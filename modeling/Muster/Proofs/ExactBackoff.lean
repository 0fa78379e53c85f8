import Muster.Agent.Backoff
/-!
The wait between two attempts in exact numbers. Powers, products and milliseconds stop at the
greatest number of 64 bits, but a limit that 64 bits can hold is reached before any of that shows.
-/
namespace Muster.Time

theorem Duration.nanos_shorter (a b : Duration) : (a.shorter b).nanos = min a.nanos b.nanos := by
  rw [Duration.shorter]
  split <;> omega

theorem Duration.eq_of_nanos {d : Duration} {nanos : Nat} (hnanos : d.nanos = nanos) :
    d = ⟨nanos⟩ := by
  rw [← hnanos]

theorem Duration.millis_mono {a b : Duration} (hle : a.nanos ≤ b.nanos) : a.millis ≤ b.millis :=
  Nat.div_le_div_right hle

theorem Duration.millis_ofMillis (n : Nat) : (Duration.ofMillis n).millis = n :=
  Nat.mul_div_cancel n (by decide)

end Muster.Time

namespace Muster.Agent

open Time

/-- The power of two is cut where it leaves 64 bits. -/
theorem doubling_eq (attempt : Nat) : doubling attempt = min greatest64 (Nat.pow 2 attempt) := by
  rw [doubling]
  split
  · next hfits =>
      have hpower : Nat.pow 2 attempt ≤ Nat.pow 2 63 :=
        Nat.pow_le_pow_right (by decide) (by omega)
      have hbelow : Nat.pow 2 63 ≤ greatest64 := by decide
      omega
  · next hbeyond =>
      have hpower : Nat.pow 2 64 ≤ Nat.pow 2 attempt :=
        Nat.pow_le_pow_right (by decide) (by omega)
      have habove : greatest64 ≤ Nat.pow 2 64 := by decide
      omega

/-- A product that is cut does not tell whether a factor was cut before. -/
theorem min_mul_min_right (most a b : Nat) : min most (a * min most b) = min most (a * b) := by
  rcases Nat.le_total b most with hbelow | habove
  · rw [Nat.min_eq_right hbelow]
  · rw [Nat.min_eq_left habove]
    rcases Nat.eq_zero_or_pos a with rfl | hpos
    · simp
    · have hcut : most ≤ a * most := Nat.le_mul_of_pos_left most hpos
      have hexact : a * most ≤ a * b := Nat.mul_le_mul_left a habove
      omega

/-- The same with both factors. -/
theorem min_mul_min (most a b : Nat) : min most (min most a * min most b) = min most (a * b) :=
  calc min most (min most a * min most b)
      = min most (b * min most a) := by rw [min_mul_min_right, Nat.mul_comm]
    _ = min most (a * b) := by rw [min_mul_min_right, Nat.mul_comm]

/-- All the cuts on the way to a wait come to one, whatever the policy is. -/
theorem Backoff.nanos_plainDelay (policy : Backoff) (attempt : Nat) :
    (policy.plainDelay attempt).nanos =
      min (min greatest64 (policy.baseDelay.millis * Nat.pow 2 attempt) * 1000000)
        policy.maxDelay.nanos := by
  simp only [plainDelay, Duration.nanos_shorter, Duration.ofMillis, doubling_eq, min_mul_min]

variable {policy : Backoff}

theorem Backoff.delay_of_no_jitter (hjitter : policy.jitter ≤ 0) (attempt : Nat) (draw : Float) :
    policy.delay attempt draw = some (policy.plainDelay attempt) := by
  rw [delay, jittered, if_pos hjitter]

/-- A limit that 64 bits hold in milliseconds makes the cut at their end invisible. -/
theorem Backoff.delay_eq (hjitter : policy.jitter ≤ 0)
    (hlimit : policy.maxDelay.nanos ≤ (Duration.ofMillis greatest64).nanos) (attempt : Nat)
    (draw : Float) :
    policy.delay attempt draw =
      some ⟨min (policy.baseDelay.millis * Nat.pow 2 attempt * 1000000) policy.maxDelay.nanos⟩ := by
  have hnanos : (policy.plainDelay attempt).nanos =
      min (policy.baseDelay.millis * Nat.pow 2 attempt * 1000000) policy.maxDelay.nanos := by
    rw [nanos_plainDelay]
    change _ ≤ greatest64 * 1000000 at hlimit
    generalize policy.baseDelay.millis * Nat.pow 2 attempt = millis
    omega
  rw [delay_of_no_jitter hjitter, Duration.eq_of_nanos hnanos]

/-- The waits of a policy are those that numbers without any end give. -/
structure Backoff.Exact (policy : Backoff) : Prop where
  /-- The whole milliseconds of the first wait, twice as many with every attempt, up to the limit. -/
  wait : ∀ attempt draw, policy.delay attempt draw =
    some ⟨min (policy.baseDelay.millis * Nat.pow 2 attempt * 1000000) policy.maxDelay.nanos⟩
  fits : ∀ attempt draw length, policy.delay attempt draw = some length →
    length.millis ≤ greatest64
  limited : ∀ attempt draw length, policy.delay attempt draw = some length →
    length.nanos ≤ policy.maxDelay.nanos
  grows : ∀ earlier later, earlier ≤ later → ∀ draw other short long,
    policy.delay earlier draw = some short → policy.delay later other = some long →
    short.nanos ≤ long.nanos

/-- Without jitter, and with a limit that 64 bits hold in milliseconds, the waits are exact, however
long the first wait is and however many attempts there are. -/
theorem backoff_exact (hjitter : policy.jitter ≤ 0)
    (hlimit : policy.maxDelay.nanos ≤ (Duration.ofMillis greatest64).nanos) : policy.Exact := by
  have hwait := Backoff.delay_eq hjitter hlimit
  have hlimited : ∀ attempt draw length, policy.delay attempt draw = some length →
      length.nanos ≤ policy.maxDelay.nanos := by
    intro attempt draw length hlength
    rw [hwait] at hlength
    cases hlength
    exact Nat.min_le_right _ _
  refine ⟨hwait, ?_, hlimited, ?_⟩
  · intro attempt draw length hlength
    have hmillis := Duration.millis_mono
      (Nat.le_trans (hlimited attempt draw length hlength) hlimit)
    rwa [Duration.millis_ofMillis] at hmillis
  · intro earlier later hle draw other short long hshort hlong
    have hpower : Nat.pow 2 earlier ≤ Nat.pow 2 later := Nat.pow_le_pow_right (by decide) hle
    have hlonger := Nat.mul_le_mul_right 1000000 (Nat.mul_le_mul_left policy.baseDelay.millis hpower)
    rw [hwait] at hshort hlong
    cases hshort
    cases hlong
    change min _ _ ≤ min _ _
    omega

/-- The longest limit there is, and a first wait of a millisecond and a bit. -/
theorem backoff_exact_of_longest_limit :
    let policy : Backoff :=
      { baseDelay := ⟨1999999⟩, maxDelay := Duration.ofMillis greatest64, jitter := 0 }
    policy.jitter ≤ 0 ∧ policy.maxDelay.nanos ≤ (Duration.ofMillis greatest64).nanos ∧
      policy.Exact := by
  intro policy
  have hjitter : policy.jitter ≤ 0 := by
    change (0 : Float) ≤ 0
    decide
  exact ⟨hjitter, Nat.le_refl _, backoff_exact hjitter (Nat.le_refl _)⟩

/-- That limit is reached where the power of two leaves 64 bits, and not before. -/
example :
    let policy : Backoff :=
      { baseDelay := ⟨1999999⟩, maxDelay := Duration.ofMillis greatest64, jitter := 0 }
    policy.delay 63 0 = some (Duration.ofMillis 9223372036854775808) ∧
      policy.delay 64 0 = some (Duration.ofMillis 18446744073709551615) ∧
      policy.delay 4294967295 0 = some (Duration.ofMillis 18446744073709551615) := by
  decide +kernel

end Muster.Agent
