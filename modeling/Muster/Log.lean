import Muster.Json.Value
/-!
What the programs tell about themselves: notices on a log, and the output that they end with.
-/
namespace Muster

/-- How serious a notice is. -/
inductive Level
  | info
  | warn
  | error
deriving Repr, DecidableEq

def Level.name : Level → String
  | .info => "INFO"
  | .warn => "WARN"
  | .error => "ERROR"

/-- A notice: who says what, with some details by name. -/
structure Notice where
  level : Level
  source : String
  message : String
  details : List (String × String) := []
deriving Repr, DecidableEq

def Notice.line (notice : Notice) : String :=
  let details := notice.details.map fun (name, value) => " " ++ name ++ "=" ++ value
  notice.level.name ++ " " ++ notice.source ++ ": " ++ notice.message ++ String.join details

def Notice.toJson (notice : Notice) : Json.Value :=
  let details := notice.details.map fun (name, value) => (name, Json.Value.text value)
  .record [
    ("level", .text notice.level.name),
    ("fields", .record (("message", .text notice.message) :: details)),
    ("target", .text notice.source)]

/-- How a program ends: its exit code, and what it has written to the standard output and to the
standard error. -/
structure Output where
  exitCode : Nat
  output : String := ""
  errors : String := ""
deriving Repr, DecidableEq

/-- The numbered lines of several causes. -/
def causeLines (causes : List String) : String :=
  let line (cause : String) (index : Nat) : String := "    " ++ Text.ofInt index ++ ": " ++ cause
  "\n".intercalate (causes.zipIdx.map fun (cause, index) => line cause index)

/-- The text of an error with the errors that caused it. A single cause has no number. -/
def errorReport (context : String) (causes : List String) : String :=
  let below := match causes with
    | [] => ""
    | [cause] => "\n\nCaused by:\n    " ++ cause
    | causes => "\n\nCaused by:\n" ++ causeLines causes
  "Error: " ++ context ++ below ++ "\n"

end Muster
