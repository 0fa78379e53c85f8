import Muster.Agent.Backoff
import Muster.Agent.Execution
import Muster.Agent.TaskCall
/-!
A poll: an agent claims a task, runs its command and reports what became of it, again and again until
the report is taken or refused for good. A poll is a small machine: at every stage it asks one thing
of the world outside, and the answer leads to the next stage. So it can be run at once, or with
others in between.
-/
namespace Muster.Agent

open Muster.Time

/-- What a poll asks of the world outside. -/
inductive PollCall
  | send (call : TaskCall)
  | execute (command : String)
  | pause (attempt : Nat)
deriving Repr, DecidableEq

/-- An answer of the world outside. -/
inductive PollReply
  | answered (result : Except ClientError (Option Task))
  | executed (execution : Execution)
  | resumed

/-- How far a poll has come. A report counts the attempts that have failed. -/
inductive PollStage
  | claim
  | execute (task : Task)
  | report (id : String) (update : UpdateTaskRequest) (failures : Nat)
  | pause (id : String) (update : UpdateTaskRequest) (failures : Nat)
  | over (result : Except ClientError Bool)

/-- What a stage asks for. The wait behind the first failed attempt is the one with number zero. -/
def PollStage.call? : PollStage → Option PollCall
  | .claim => some (.send .claim)
  | .execute task => some (.execute task.command)
  | .report id update _ => some (.send (.report id update))
  | .pause _ _ failures => some (.pause (failures - 1))
  | .over _ => none

/-- The stage behind a report that failed: another attempt after a wait, unless the error or the
policy rules that out. -/
def afterFailure (policy : Backoff) (id : String) (update : UpdateTaskRequest) (failures : Nat)
    (error : ClientError) : PollStage :=
  if error.isRetryable ∧ policy.shouldRetry failures then .pause id update failures
  else .over (.error error)

def PollStage.next (policy : Backoff) : PollStage → PollReply → PollStage
  | .claim, .answered (.ok none) => .over (.ok false)
  | .claim, .answered (.ok (some task)) => .execute task
  | .claim, .answered (.error error) => .over (.error error)
  | .execute task, .executed execution => .report task.id execution.report 0
  | .report _ _ _, .answered (.ok _) => .over (.ok true)
  | .report id update failures, .answered (.error error) =>
      afterFailure policy id update (failures + 1) error
  | .pause id update failures, .resumed => .report id update failures
  | stage, _ => stage

/-- At most so many steps of a poll. -/
def runPoll {m : Type → Type} [Monad m] (policy : Backoff) (ask : PollCall → m PollReply) :
    Nat → PollStage → m PollStage
  | 0, stage => pure stage
  | steps + 1, stage =>
      match stage.call? with
      | none => pure stage
      | some call => do
          let reply ← ask call
          runPoll policy ask steps (stage.next policy reply)

/-- The most steps of a poll whose policy limits the attempts: claim and command, and a report and a
wait for every attempt. -/
def mostSteps (attempts : Nat) : Nat :=
  2 * max 1 attempts + 2

def reportAttempts : Nat := 5

def reportPolicy : Backoff :=
  Backoff.standard.withMaxAttempts reportAttempts

/-- How long an agent waits between two polls: not at all behind a task, for its interval where there
was none, and ever longer behind failures. -/
inductive Rest
  | none
  | idle
  | backoff (attempt : Nat)
deriving Repr, DecidableEq

/-- The rest behind a poll, and the number of failed polls in a row. -/
def restAfter (failures : Nat) : Except ClientError Bool → Rest × Nat
  | .ok true => (.none, 0)
  | .ok false => (.idle, 0)
  | .error _ => (.backoff failures, failures + 1)

end Muster.Agent
