import Muster.Text.Shortest
import Muster.Time.Duration
import Muster.Wire.Task
/-!
What became of a command, and the report on it.
-/
namespace Muster.Agent

open Muster.Text Muster.Time

/-- What became of a command. There is no exit code where it could not be started or did not end by
itself. -/
structure Execution where
  exitCode : Option Int
  output : String
  errors : String
deriving Repr, DecidableEq

/-- A command that came to nothing. -/
def Execution.failed (reason : String) : Execution :=
  ⟨none, "", reason⟩

def Execution.succeeded (execution : Execution) : Bool :=
  execution.exitCode = some 0

/-- The report on a command. An empty error output is left out. -/
def Execution.report (execution : Execution) : UpdateTaskRequest where
  status := (if execution.succeeded then TaskStatus.completed else TaskStatus.failed).text
  output := some execution.output
  error := if execution.errors.isEmpty then none else some execution.errors
  exitCode := execution.exitCode

/-- Seconds in messages have no exponent and, if whole, no fraction. -/
def secondsStyle : FloatStyle := ⟨-400, 400, false⟩

/-- A command that was stopped because it took too long. -/
def Execution.timedOut (timeout : Duration) : Execution :=
  .failed ("command timed out after " ++ floatText secondsStyle timeout.toFloat ++ "s")

/-- A command with a NUL character, which no process can be given. -/
def Execution.withNul : Execution :=
  .failed "failed to start command: nul byte found in provided data"

end Muster.Agent
