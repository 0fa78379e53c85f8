import Mathlib
import Muster.ControlPlane.Program
import Muster.Proofs.ReplayGate
/-!
When a genuine request is refused for its age. Below the greatest second the cut numbers decide as
exact ones would. A window that reaches the greatest second refuses nothing: every distance is cut
there, and is no longer than the window any more.
-/
namespace Muster.Auth

open Store Text Time

theorem distance64_le_greatest (a b : Int) : distance64 a b ≤ greatestSecond64 := by
  simp only [distance64, clamp64, leastSecond64, greatestSecond64]
  omega

/-- A cut distance exceeds a cut window exactly where the exact ones do and the window lies below the
greatest second. -/
theorem windowOf_lt_distance64_iff (seconds : Nat) (a b : Int) :
    windowOf seconds < distance64 a b ↔
      (seconds : Int) < greatestSecond64 ∧ (seconds : Int) < |a - b| := by
  by_cases hbelow : (seconds : Int) < greatestSecond64
  · have hexact := distance64_le_iff (Int.natCast_nonneg seconds) hbelow a b
    rw [windowOf_eq hbelow, ← Int.not_le, hexact, Int.not_le]
    simp [hbelow]
  · have hcut : windowOf seconds = greatestSecond64 := by
      simp only [windowOf]
      omega
    have hmost := distance64_le_greatest a b
    rw [hcut]
    omega

end Muster.Auth

namespace Muster.ControlPlane

open Agent Auth Rsa Store Time

/-- A genuine request is refused as expired exactly if it is further from the clock than the window,
in exact numbers and whatever the clock and the request say, provided that the window lies below the
greatest second. Else it is let in, or its nonce has been used. -/
theorem expired_exactly_below_greatest (config : Config) {agents : AgentStore}
    {signed : SignedHeaders} (hgenuine : signed.Genuine agents) (now : Int) (nonces : NonceCache) :
    let answer := (authenticateAt AgentStore.repository config.service.window signed now agents
      nonces).1
    (answer = .error .expired ↔
      (config.freshnessWindow : Int) < greatestSecond64 ∧
        (config.freshnessWindow : Int) < |now - signed.timestamp|) ∧
    (answer ≠ .error .expired → answer = .ok () ∨ answer = .error .replayed) := by
  intro answer
  have hanswer : answer =
      if windowOf config.freshnessWindow < distance64 now signed.timestamp then .error .expired
      else if nonces.isFresh signed.agentId signed.nonce now then .ok ()
      else .error .replayed := hgenuine.answer _ now nonces
  rw [← windowOf_lt_distance64_iff, hanswer]
  by_cases hage : windowOf config.freshnessWindow < distance64 now signed.timestamp
  · simp [hage]
  · cases nonces.isFresh signed.agentId signed.nonce now <;> simp [hage]

/-- A request one second before its window opens. -/
theorem expired_exactly_below_greatest_of_early :
    let signed := keyHolderHeaders 1700000301
    signed.Genuine keyHolderStore ∧
      (authenticateAt AgentStore.repository ({} : Config).service.window signed 1700000000
        keyHolderStore NonceCache.empty).1 = .error .expired := by
  intro signed
  have hgenuine : signed.Genuine keyHolderStore := keyHolderHeaders_genuine 1700000301
  have hanswer := expired_exactly_below_greatest {} hgenuine 1700000000 NonceCache.empty
  exact ⟨hgenuine, hanswer.1.2 (by decide)⟩

/-- The greatest window that needs no cutting, and a request one second older than it: it is let in,
as the distance is cut down to the window. -/
theorem oldest_request_let_in :
    let config : Config := { freshnessWindow := 9223372036854775807 }
    let signed := keyHolderHeaders (-9223372036854775808)
    Config.ofText "freshness_window_secs: 9223372036854775807" = .ok config ∧
      signed.Genuine keyHolderStore ∧ InRange64 signed.timestamp ∧
      (config.freshnessWindow : Int) < |0 - signed.timestamp| ∧
      (authenticateAt AgentStore.repository config.service.window signed 0 keyHolderStore
        NonceCache.empty).1 = .ok () := by
  intro config signed
  have hgenuine : signed.Genuine keyHolderStore := keyHolderHeaders_genuine _
  refine ⟨by cbv, hgenuine, by decide, by decide, ?_⟩
  rw [hgenuine.answer, if_neg (by decide), if_pos (NonceCache.isFresh_empty _ _ _)]

end Muster.ControlPlane
