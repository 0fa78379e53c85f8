import Muster.Auth.SignedHeaders
import Muster.ControlPlane.Registry
import Muster.ControlPlane.TaskQueue
/-!
Errors as a caller sees them: one HTTP status for each kind, and a message.
-/
namespace Muster.ControlPlane

open Muster.Auth

/-- The kinds of errors that a caller can tell apart. -/
inductive ErrorKind
  | validation
  | unauthorized
  | notFound
  | conflict
  | internal
deriving Repr, DecidableEq

def ErrorKind.status : ErrorKind → Nat
  | .validation => 400
  | .unauthorized => 401
  | .notFound => 404
  | .conflict => 409
  | .internal => 500

/-- An error as a caller sees it. -/
structure ApiError where
  kind : ErrorKind
  message : String
deriving Repr, DecidableEq

def ApiError.status (error : ApiError) : Nat :=
  error.kind.status

def RegistryError.kind : RegistryError → ErrorKind
  | .validation _ => .validation
  | .invalidToken => .unauthorized
  | .duplicateAgent _ => .conflict
  | .store _ => .internal

def TaskError.kind : TaskError → ErrorKind
  | .validation _ => .validation
  | .notFound _ => .notFound
  | .invalidTransition _ _ _ => .conflict
  | .store _ => .internal

def ApiError.ofRegistry (error : RegistryError) : ApiError :=
  ⟨error.kind, error.message⟩

def ApiError.ofTask (error : TaskError) : ApiError :=
  ⟨error.kind, error.message⟩

/-- A request that is not authenticated, as the caller sees it. -/
def ApiError.ofAuth (error : AuthError) : ApiError :=
  ⟨.unauthorized, error.message⟩

end Muster.ControlPlane
