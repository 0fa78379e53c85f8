import Muster.Wire.TaskStatus
/-!
Why a store refuses an operation.
-/
namespace Muster.Store

/-- A refusal of a store. -/
inductive StoreError
  | notFound
  | alreadyExists
  | keyInUse (agentId : String)
  | invalidTransition (was next : TaskStatus)
  | backend (detail : String)
deriving Repr, DecidableEq

def StoreError.message : StoreError → String
  | .notFound => "record not found"
  | .alreadyExists => "record already exists"
  | .keyInUse agentId => "public key already belongs to agent " ++ agentId
  | .invalidTransition was next => "cannot move task from " ++ was.text ++ " to " ++ next.text
  | .backend detail => "storage backend: " ++ detail

end Muster.Store
