import Muster.Time.Duration
/-!
Exponential backoff: the wait doubles with every attempt up to a limit, and is then moved at random
by a share of itself. The wait is reckoned in 64-bit milliseconds, which stop at their greatest
value, and moved in floating-point numbers.
-/
namespace Muster.Agent

open Muster.Time

/-- How long to wait between attempts, and how many of them to make. `jitter` is the share of a wait
by which it may be moved. -/
structure Backoff where
  maxAttempts : Option Nat := none
  baseDelay : Duration := Duration.ofSeconds 1
  maxDelay : Duration := Duration.ofSeconds 60
  jitter : Float := 0.25
deriving Repr

/-- The policy of an agent that asks for tasks: it never gives up. -/
def Backoff.standard : Backoff := {}

def Backoff.withMaxAttempts (policy : Backoff) (n : Nat) : Backoff :=
  { policy with maxAttempts := some n }

def greatest64 : Nat := UInt64.size - 1

/-- The power of two, as far as 64 bits reach. -/
def doubling (attempt : Nat) : Nat :=
  if attempt < 64 then Nat.pow 2 attempt else greatest64

/-- The wait behind an attempt, counted from zero, without any jitter. -/
def Backoff.plainDelay (policy : Backoff) (attempt : Nat) : Duration :=
  let millis := min greatest64 (min greatest64 policy.baseDelay.millis * doubling attempt)
  (Duration.ofMillis millis).shorter policy.maxDelay

/-- Draws are the multiples of 2^-52 from 0 on below 1. -/
def greatestDraw : Float := 1.0 - 1.0 / 4503599627370496.0

/-- The most milliseconds that a wait may be moved by, in either direction. -/
def jitterRange (base : Duration) (share : Float) : Float :=
  Float.ofNat base.millis * share

/-- The factor that leads from a draw to a place in the range. -/
def jitterScale (base : Duration) (share : Float) : Float :=
  (jitterRange base share + jitterRange base share) / greatestDraw

/-- A wait moved by a share of itself. There is none where the range is no number or too wide for a
floating-point number: the generator panics then. -/
def jittered (base : Duration) (share draw : Float) : Option Duration :=
  if share ≤ 0 then some base
  else
    let range := jitterRange base share
    let scale := jitterScale base share
    if scale.isFinite then
      let millis := Float.ofNat base.millis + min range (draw * scale - range)
      some (Duration.ofMillis (max millis 0).toUInt64.toNat)
    else none

def Backoff.delay (policy : Backoff) (attempt : Nat) (draw : Float) : Option Duration :=
  jittered (policy.plainDelay attempt) policy.jitter draw

/-- Is there to be another attempt, after so many? -/
def Backoff.shouldRetry (policy : Backoff) (attempts : Nat) : Bool :=
  policy.maxAttempts.all (attempts < ·)

end Muster.Agent
