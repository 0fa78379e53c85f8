import Muster.Http.Target
/-!
The routes of the control plane, and what each one does for a method. A path has to match exactly;
what stands for the id of a task is any one segment that is not empty.
-/
namespace Muster.ControlPlane

open Muster.Http

/-- A route. The id of a task is as it stands in the path. -/
inductive Route
  | register
  | tasks
  | task (segment : String)
  | claim
deriving Repr, DecidableEq

def Route.ofSegments? : List String → Option Route
  | ["v1", "agents", "register"] => some .register
  | ["v1", "tasks"] => some .tasks
  | ["v1", "tasks", segment] =>
      if segment = "claim" then some .claim
      else if segment.isEmpty then none
      else some (.task segment)
  | _ => none

def Route.ofTarget? (target : Target) : Option Route :=
  target.segments?.bind Route.ofSegments?

/-- What is done with tasks for some method of some route. -/
inductive TaskAction
  | list
  | create
  | get (segment : String)
  | update (segment : String)
deriving Repr, DecidableEq

/-- Is this the method that asks for a response, or for the head of one? -/
def isGet (method : String) : Bool :=
  method = "GET" || method = "HEAD"

def tasksAction? (method : String) : Option TaskAction :=
  if isGet method then some .list
  else if method = "POST" then some .create
  else none

def taskAction? (method segment : String) : Option TaskAction :=
  if isGet method then some (.get segment)
  else if method = "PUT" then some (.update segment)
  else none

end Muster.ControlPlane
