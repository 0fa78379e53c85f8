import Muster.ControlPlane.Validation
import Muster.Store.Repository
/-!
The queue of tasks: requests are validated, and what the store refuses is told in terms of the task
that was asked for.
-/
namespace Muster.ControlPlane

open Muster.Store Muster.Time

/-- Why a request about tasks fails. -/
inductive TaskError
  | validation (violations : List Violation)
  | notFound (id : String)
  | invalidTransition (id : String) (was next : TaskStatus)
  | store (error : StoreError)
deriving Repr, DecidableEq

def TaskError.message : TaskError → String
  | .validation violations => violationsText violations
  | .notFound id => "task " ++ id ++ " not found"
  | .invalidTransition id was next =>
      "task " ++ id ++ " cannot move from " ++ was.text ++ " to " ++ next.text
  | .store error => error.message

def newTask (request : CreateTaskRequest) (id : String) (now : Instant) : Task where
  id := id
  command := request.command
  priority := request.priority
  status := .pending
  output := none
  error := none
  exitCode := none
  claimedBy := none
  createdAt := now

variable {σ : Type}

/-- A refusal of the store that no request is to blame for. -/
def storeResult {α : Type} : Except StoreError α × σ → Except TaskError α × σ
  | (.ok a, tasks) => (.ok a, tasks)
  | (.error error, tasks) => (.error (.store error), tasks)

def createTask (repository : TaskRepository σ) (request : CreateTaskRequest) (id : String)
    (now : Instant) (tasks : σ) : Except TaskError Task × σ :=
  match validateCreate request with
  | .error violations => (.error (.validation violations), tasks)
  | .ok () =>
      let task := newTask request id now
      match repository.create task tasks with
      | (.ok (), tasks) => (.ok task, tasks)
      | (.error error, tasks) => (.error (.store error), tasks)

def listTasks (repository : TaskRepository σ) (filter : TaskFilter) (tasks : σ) :
    Except TaskError (List Task) × σ :=
  storeResult (repository.findAll filter tasks)

def getTask (repository : TaskRepository σ) (id : String) (tasks : σ) : Except TaskError Task × σ :=
  match repository.findById id tasks with
  | (.ok (some task), tasks) => (.ok task, tasks)
  | (.ok none, tasks) => (.error (.notFound id), tasks)
  | (.error error, tasks) => (.error (.store error), tasks)

def updateTask (repository : TaskRepository σ) (id : String) (request : UpdateTaskRequest)
    (tasks : σ) : Except TaskError Task × σ :=
  match validateUpdate request with
  | .error violations => (.error (.validation violations), tasks)
  | .ok update =>
      match repository.update id update tasks with
      | (.ok task, tasks) => (.ok task, tasks)
      | (.error .notFound, tasks) => (.error (.notFound id), tasks)
      | (.error (.invalidTransition was next), tasks) =>
          (.error (.invalidTransition id was next), tasks)
      | (.error error, tasks) => (.error (.store error), tasks)

def claimTask (repository : TaskRepository σ) (agentId : String) (tasks : σ) :
    Except TaskError (Option Task) × σ :=
  storeResult (repository.claimNext agentId tasks)

end Muster.ControlPlane
