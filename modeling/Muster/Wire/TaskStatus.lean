import Muster.Json.Codec
/-!
The status of a task. It only moves forward: from pending to running to completed or failed, where it
stays.
-/
namespace Muster

/-- Where a task stands. -/
inductive TaskStatus
  | pending
  | running
  | completed
  | failed
deriving Repr, DecidableEq, Inhabited

def TaskStatus.text : TaskStatus → String
  | .pending => "pending"
  | .running => "running"
  | .completed => "completed"
  | .failed => "failed"

def TaskStatus.named : List (String × TaskStatus) :=
  [.pending, .running, .completed, .failed].map fun status => (status.text, status)

def TaskStatus.ofText? (name : String) : Option TaskStatus :=
  TaskStatus.named.lookup name

def TaskStatus.isTerminal : TaskStatus → Bool
  | .completed | .failed => true
  | _ => false

/-- The place of a status in the course of a task. -/
def TaskStatus.rank : TaskStatus → Nat
  | .pending => 0
  | .running => 1
  | .completed | .failed => 2

/-- May a task move from one status to the other? A status that is not terminal may be stated
again. -/
def TaskStatus.canMoveTo (status next : TaskStatus) : Bool :=
  !status.isTerminal && status.rank ≤ next.rank

def TaskStatus.codec : Json.Codec TaskStatus :=
  Json.Codec.choice TaskStatus.named TaskStatus.text

theorem TaskStatus.ofText?_text (status : TaskStatus) :
    TaskStatus.ofText? status.text = some status := by
  cases status <;> rfl

/-- A status moves forward or, before the end, stays. -/
theorem TaskStatus.canMoveTo_iff (status next : TaskStatus) :
    status.canMoveTo next ↔ status.rank < next.rank ∨ (status = next ∧ status.rank < 2) := by
  cases status <;> cases next <;> decide

end Muster
