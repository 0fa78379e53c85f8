import Muster.ControlPlane.ApiError
import Muster.Http.Exchange
import Muster.Http.MediaType
import Muster.Http.Target
import Muster.Json.Codec
/-!
What requests hold: values in JSON bodies and in queries, and how a response tells of an error. Every
fault is reported in words.
-/
namespace Muster.ControlPlane

open Muster.Http Muster.Json Muster.Text

/-- A fault of a JSON body in words. The way to the place comes before the fault, except at the
top. -/
def bodyFaultText : Fault → String
  | .malformed => "Failed to parse the request body as JSON"
  | .data path error =>
      let place := if path.isEmpty then "" else pathText path ++ ": "
      "Failed to deserialize the JSON body into the target type: " ++ place ++ error.message

/-- The value in the JSON body of a request. How long a body may be is left to whoever takes it
from the network. -/
def readBody {α : Type} (codec : Codec α) (request : Request) : Except ApiError α :=
  if !request.headers.announceJson then
    .error ⟨.validation, "Expected request with `Content-Type: application/json`"⟩
  else match codec.readOctets request.body with
    | .ok a => .ok a
    | .error fault => .error ⟨.validation, bodyFaultText fault⟩

/-- Why a query is not understood. -/
inductive QueryError
  | duplicateField (name : String)
  | badPriority (error : DecimalError)
deriving Repr, DecidableEq

def QueryError.message (error : QueryError) : String :=
  "Failed to deserialize query string: " ++ match error with
    | .duplicateField name => "duplicate field `" ++ name ++ "`"
    | .badPriority error => "priority: " ++ error.message

/-- A query for a list with one more field. Fields with other names do not count. -/
def ListQuery.addField (query : ListQuery) (name value : String) : Except QueryError ListQuery :=
  if name = "status" then
    if query.status.isSome then .error (.duplicateField name)
    else .ok { query with status := some value }
  else if name = "priority" then
    if query.priority.isSome then .error (.duplicateField name)
    else match readInt bounds64 value with
      | .ok n => .ok { query with priority := some n }
      | .error error => .error (.badPriority error)
  else .ok query

/-- The query for a list that some fields make up. -/
def ListQuery.ofFields (fields : List (String × String)) : Except QueryError ListQuery :=
  fields.foldlM (fun query (name, value) => query.addField name value) ⟨none, none⟩

def readFilter (target : Target) : Except ApiError Store.TaskFilter :=
  match ListQuery.ofFields target.queryFields with
  | .error error => .error ⟨.validation, error.message⟩
  | .ok query =>
      match query.filter with
      | .error violations => .error ⟨.validation, violationsText violations⟩
      | .ok filter => .ok filter

def ApiError.response (error : ApiError) : Response :=
  ⟨error.status, .json (ErrorBody.shape.codec.write ⟨error.message⟩)⟩

def valueResponse {α : Type} (status : Nat) (codec : Codec α) (a : α) : Response :=
  ⟨status, .json (codec.write a)⟩

def bareResponse (status : Nat) : Response :=
  ⟨status, .empty⟩

end Muster.ControlPlane
