import Muster.Http.Headers
import Muster.Json.Value
import Muster.Text.Utf8
/-!
Requests and responses of HTTP, as far as a program behind the connection sees them.
-/
namespace Muster.Http

open Muster.Text

/-- A request. The target is the path with what follows it; its body is the octets that were sent. -/
structure Request where
  method : String
  target : String
  headers : Headers
  body : List UInt8
deriving Repr, DecidableEq

/-- The body of a response. -/
inductive Body
  | empty
  | json (value : Json.Value)
  | plain (text : String)
deriving Repr, Inhabited

/-- A response. -/
structure Response where
  status : Nat
  body : Body
deriving Repr, Inhabited

def Body.octets : Body → List UInt8
  | .empty => []
  | .json value => toUtf8 value.write
  | .plain text => toUtf8 text

def Body.mediaType? : Body → Option String
  | .empty => none
  | .json _ => some "application/json"
  | .plain _ => some "text/plain; charset=utf-8"

/-- The response without its body, as it answers a request for the head alone. -/
def Response.head (response : Response) : Response :=
  { response with body := .empty }

/-- Does a status say that the request was carried out? -/
def isSuccess (status : Nat) : Bool :=
  200 ≤ status && status < 300

end Muster.Http
