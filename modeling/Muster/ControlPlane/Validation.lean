import Muster.Rsa.PublicKey
import Muster.Store.TaskStore
import Muster.Text.Quoted
import Muster.Text.Words
import Muster.Wire.Registration
/-!
Validation of requests. A check reports every field that is wrong, in the order of the fields, with
one message each.
-/
namespace Muster.ControlPlane

open Muster.Text Muster.Store

/-- A field that is wrong, and what is wrong with it. -/
structure Violation where
  field : String
  message : String
deriving Repr, DecidableEq

def Violation.text (violation : Violation) : String :=
  violation.field ++ ": " ++ violation.message

def violationsText (violations : List Violation) : String :=
  "; ".intercalate (violations.map Violation.text)

/-- The violations of a field: one if the test fails. -/
def expect (test : Bool) (field message : String) : List Violation :=
  if test then [] else [⟨field, message⟩]

/-- No violations, or all of them as an error. -/
def checked (violations : List Violation) : Except (List Violation) Unit :=
  if violations.isEmpty then .ok () else .error violations

/-- Why a text is no command. -/
inductive CommandError
  | openQuote
  | empty
deriving Repr, DecidableEq

def CommandError.message : CommandError → String
  | .openQuote => "invalid command syntax: missing closing quote"
  | .empty => "command must not be empty"

/-- The words of a command. This looks at the syntax only; nothing is run. -/
def parseCommand (command : String) : Except CommandError (List String) :=
  match words? command with
  | none => .error .openQuote
  | some [] => .error .empty
  | some words => .ok words

def longestFingerprint : Nat := 256

/-- What is wrong with a fingerprint. Blanks at its ends do not count. -/
def fingerprintViolations (fingerprint : String) : List Violation :=
  let fingerprint := trim fingerprint
  if fingerprint.isEmpty then [⟨"fingerprint", "must not be empty"⟩]
  else expect (fingerprint.utf8ByteSize ≤ longestFingerprint) "fingerprint"
    ("must be at most " ++ ofInt longestFingerprint ++ " bytes")

def publicKeyViolations (publicKey : String) : List Violation :=
  if publicKey.isEmpty then [⟨"public_key", "must not be empty"⟩]
  else match Rsa.PublicKey.decode publicKey with
    | .ok _ => []
    | .error error => [⟨"public_key", error.message⟩]

def registrationViolations (request : RegistrationRequest) : List Violation :=
  fingerprintViolations request.fingerprint ++
  expect (!request.tokenId.isEmpty) "token_id" "must not be empty" ++
  expect (!request.tokenKey.isEmpty) "token_key" "must not be empty" ++
  expect (request.publicKeyType = rsaKeyType) "public_key_type"
    ("unsupported key type " ++ quoted request.publicKeyType ++ ", expected " ++ quoted rsaKeyType) ++
  publicKeyViolations request.publicKey ++
  expect (request.tags.all fun tag => !isBlankText tag.key) "tags" "tag keys must not be empty"

def validateRegistration (request : RegistrationRequest) : Except (List Violation) Unit :=
  checked (registrationViolations request)

/-- Checks a request for a task: its command must be one. -/
def validateCreate (request : CreateTaskRequest) : Except (List Violation) Unit :=
  match parseCommand request.command with
  | .ok _ => .ok ()
  | .error error => .error [⟨"command", error.message⟩]

/-- The change that a report asks for. Its status must be known. -/
def validateUpdate (request : UpdateTaskRequest) : Except (List Violation) TaskUpdate :=
  match TaskStatus.ofText? request.status with
  | some status => .ok ⟨status, request.output, request.error, request.exitCode⟩
  | none => .error [⟨"status", "unknown status " ++ quoted request.status ++
      ", expected pending, running, completed or failed"⟩]

/-- A request for a list of tasks: a status by name and a priority, both optional. -/
structure ListQuery where
  status : Option String
  priority : Option Int
deriving Repr, DecidableEq

/-- The filter that a request for a list asks for. Its status must be known. -/
def ListQuery.filter (query : ListQuery) : Except (List Violation) TaskFilter :=
  match query.status with
  | none => .ok ⟨none, query.priority⟩
  | some name =>
      match TaskStatus.ofText? name with
      | some status => .ok ⟨some status, query.priority⟩
      | none => .error [⟨"status", "unknown status " ++ quoted name⟩]

end Muster.ControlPlane
