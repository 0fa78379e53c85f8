import Muster.Http.Exchange
import Muster.Json.Codec
import Muster.Wire.Registration
import Muster.Wire.Task
/-!
What comes back for a request of an agent: a reply of the control plane, or nothing. A reply is read
by its status first; only one that says success holds a value.
-/
namespace Muster.Agent

open Muster.Http Muster.Json

/-- A reply as it comes over the network. -/
structure Reply where
  status : Nat
  body : List UInt8
deriving Repr, DecidableEq

/-- A response as it goes over the network. -/
def Reply.ofResponse (response : Response) : Reply :=
  ⟨response.status, response.body.octets⟩

/-- Why no reply came: the detail of the failure, and whether it was that time ran out. -/
structure SendError where
  detail : String
  isTimeout : Bool
deriving Repr, DecidableEq

/-- Why a request about tasks fails. -/
inductive ClientError
  | transport (detail : String)
  | rejected (status : Nat) (message : String)
deriving Repr, DecidableEq

def ClientError.message : ClientError → String
  | .transport detail => "request failed: " ++ detail
  | .rejected status message =>
      "server responded " ++ Text.ofInt status ++ ": " ++ message

/-- May the same request succeed later? Not if the control plane has refused it for good. -/
def ClientError.isRetryable : ClientError → Bool
  | .transport _ => true
  | .rejected status _ => 500 ≤ status || status = 401 || status = 429

/-- The error text in a reply; none for a reply that has no such text. -/
def Reply.errorText? (reply : Reply) : Option String :=
  match ErrorBody.shape.codec.readOctets reply.body with
  | .ok body => some body.error
  | .error _ => none

def Reply.decode {α : Type} (codec : Codec α) (reply : Reply) : Except ClientError α :=
  if isSuccess reply.status then
    match codec.readOctets reply.body with
    | .ok a => .ok a
    | .error _ => .error (.transport "error decoding response body")
  else .error (.rejected reply.status (reply.errorText?.getD ""))

end Muster.Agent
