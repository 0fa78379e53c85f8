import Muster.Wire.TaskStatus
import Muster.Json.Shape
/-!
Tasks, and the requests that create and update them. An update states the status as a plain text, so
that an unknown one is answered by validation.
-/
namespace Muster

open Json Text Time

/-- A command to run once, and what became of it. -/
structure Task where
  id : String
  command : String
  priority : Int
  status : TaskStatus
  output : Option String
  error : Option String
  exitCode : Option Int
  claimedBy : Option String
  createdAt : Instant
deriving DecidableEq

/-- A request for a new task. -/
structure CreateTaskRequest where
  command : String
  priority : Int
deriving Repr, DecidableEq

/-- A report on a task. -/
structure UpdateTaskRequest where
  status : String
  output : Option String
  error : Option String
  exitCode : Option Int
deriving Repr, DecidableEq

def priorityCodec : Codec Int :=
  Codec.integer bounds64 "i64"

def exitCodeCodec : Codec Int :=
  Codec.integer bounds32 "i32"

/-- A task as an object; what it does not have yet is left out. -/
def Task.shape : Shape Task where
  name := "Task"
  types := [String, String, Int, TaskStatus, Option String, Option String, Option Int,
    Option String, Instant]
  fields :=
    .cons (textField "id") <|
    .cons (textField "command") <|
    .cons { name := "priority", codec := priorityCodec } <|
    .cons { name := "status", codec := TaskStatus.codec } <|
    .cons (omittedField "output" Codec.text) <|
    .cons (omittedField "error" Codec.text) <|
    .cons (omittedField "exit_code" exitCodeCodec) <|
    .cons (omittedField "claimed_by" Codec.text) <|
    .cons { name := "created_at", codec := Codec.instant } .nil
  toRow t := (t.id, t.command, t.priority, t.status, t.output, t.error, t.exitCode, t.claimedBy,
    t.createdAt, ())
  ofRow
    | (id, command, priority, status, output, error, exitCode, claimedBy, createdAt, ()) =>
        ⟨id, command, priority, status, output, error, exitCode, claimedBy, createdAt⟩

def CreateTaskRequest.shape : Shape CreateTaskRequest where
  name := "CreateTaskRequest"
  types := [String, Int]
  fields :=
    .cons (textField "command") <|
    .cons { name := "priority", codec := priorityCodec, absent := some 0 } .nil
  toRow r := (r.command, r.priority, ())
  ofRow | (command, priority, ()) => ⟨command, priority⟩

/-- A report as an object; absent parts are written as null. -/
def UpdateTaskRequest.shape : Shape UpdateTaskRequest where
  name := "UpdateTaskRequest"
  types := [String, Option String, Option String, Option Int]
  fields :=
    .cons (textField "status") <|
    .cons (optionalField "output" Codec.text) <|
    .cons (optionalField "error" Codec.text) <|
    .cons (optionalField "exit_code" exitCodeCodec) .nil
  toRow r := (r.status, r.output, r.error, r.exitCode, ())
  ofRow | (status, output, error, exitCode, ()) => ⟨status, output, error, exitCode⟩

end Muster
