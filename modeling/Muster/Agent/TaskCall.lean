import Muster.Agent.Reply
import Muster.Agent.Signer
import Muster.Wire.Task
/-!
The requests of an agent about tasks, and what their replies mean. Only a claim may be answered with
no task at all.
-/
namespace Muster.Agent

open Muster.Auth Muster.Http Muster.Text

/-- A request about tasks. -/
inductive TaskCall
  | create (request : CreateTaskRequest)
  | get (id : String)
  | claim
  | report (id : String) (update : UpdateTaskRequest)
deriving Repr, DecidableEq

def TaskCall.method : TaskCall → String
  | .create _ | .claim => "POST"
  | .get _ => "GET"
  | .report _ _ => "PUT"

def TaskCall.path : TaskCall → String
  | .create _ => "/v1/tasks"
  | .claim => "/v1/tasks/claim"
  | .get id | .report id _ => "/v1/tasks/" ++ id

/-- The JSON text that a request sends along. -/
def TaskCall.content? : TaskCall → Option String
  | .create request => some (CreateTaskRequest.shape.codec.writeText request)
  | .report _ update => some (UpdateTaskRequest.shape.codec.writeText update)
  | .get _ | .claim => none

/-- A request with a JSON text, or without any body. -/
def requestWith (method target : String) (headers : Headers) (content? : Option String) : Request :=
  match content? with
  | none => ⟨method, target, headers, []⟩
  | some content =>
      ⟨method, target, headers ++ [("content-type", toUtf8 "application/json")], toUtf8 content⟩

def TaskCall.request (call : TaskCall) (signed : SignedHeaders) : Request :=
  requestWith call.method call.path signed.toHeaders call.content?

/-- What a reply to a request means: a task, or none for a claim when nothing is to be done. -/
def TaskCall.read (call : TaskCall) (reply : Reply) : Except ClientError (Option Task) :=
  if call = .claim ∧ reply.status = 204 then .ok none
  else (reply.decode Task.shape.codec).map some

def TaskCall.outcome (call : TaskCall) (answer : Except SendError Reply) :
    Except ClientError (Option Task) :=
  match answer with
  | .ok reply => call.read reply
  | .error error => .error (.transport error.detail)

end Muster.Agent
