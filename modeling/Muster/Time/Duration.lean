/-!
Lengths of time in whole nanoseconds.
-/
namespace Muster.Time

/-- A length of time. -/
structure Duration where
  nanos : Nat
deriving Repr, DecidableEq

/-- A length in seconds and further nanoseconds. -/
def Duration.ofParts (seconds nanos : Nat) : Duration :=
  ⟨seconds * 1000000000 + nanos⟩

def Duration.ofSeconds (seconds : Nat) : Duration :=
  .ofParts seconds 0

def Duration.ofMillis (millis : Nat) : Duration :=
  ⟨millis * 1000000⟩

def Duration.millis (d : Duration) : Nat :=
  d.nanos / 1000000

def Duration.seconds (d : Duration) : Nat :=
  d.nanos / 1000000000

/-- The nanoseconds behind the whole seconds. -/
def Duration.subsecond (d : Duration) : Nat :=
  d.nanos % 1000000000

def Duration.shorter (a b : Duration) : Duration :=
  if a.nanos ≤ b.nanos then a else b

/-- The length as a floating-point number of seconds. -/
def Duration.toFloat (d : Duration) : Float :=
  Float.ofNat d.seconds + Float.ofNat d.subsecond / 1000000000.0

end Muster.Time
