import Muster.Auth.Authenticator
import Muster.ControlPlane.Body
import Muster.ControlPlane.Route
/-!
The control plane as a whole: a request changes its state and is answered. Requests about tasks are
signed, unless the service is set up to take them unsigned; a claim is always signed, since the task
goes to the agent that signed.
-/
namespace Muster.ControlPlane

open Muster.Auth Muster.Http Muster.Store Muster.Time

/-- How a control plane is set up. -/
structure Service where
  tokens : BootstrapTokens
  window : Int
  unsignedTasks : Bool
deriving Repr, DecidableEq

/-- All that a control plane keeps. -/
structure State where
  agents : AgentStore
  tasks : TaskStore
  nonces : NonceCache

def State.empty : State :=
  ⟨AgentStore.empty, TaskStore.empty, NonceCache.empty⟩

/-- What the outside world gives to the handling of a request: the time, and ids that are fresh. -/
structure Occasion where
  now : ClockTime
  agentId : String
  taskId : String
deriving DecidableEq

def Service.registerAgent (service : Service) (occasion : Occasion) (request : Request)
    (state : State) : Response × State :=
  match readBody RegistrationRequest.shape.codec request with
  | .error error => (error.response, state)
  | .ok body =>
      let (result, agents) := register AgentStore.repository service.tokens body occasion.agentId
        occasion.now state.agents
      let state := { state with agents }
      match result with
      | .ok record =>
          (valueResponse 200 RegistrationResponse.shape.codec (registrationResponse record), state)
      | .error error => ((ApiError.ofRegistry error).response, state)

/-- The response with a task, or with the error that came instead. -/
def taskResponse (status : Nat) : Except TaskError Task → Response
  | .ok task => valueResponse status Task.shape.codec task
  | .error error => (ApiError.ofTask error).response

/-- The response to a path whose id of a task is no text. -/
def unreadableId : Response :=
  ⟨400, .plain "Invalid URL: Invalid UTF-8 in `task_id`"⟩

def actOnTasks (occasion : Occasion) (request : Request) (action : TaskAction) (tasks : TaskStore) :
    Response × TaskStore :=
  match action with
  | .list =>
      match readFilter (Target.ofText request.target) with
      | .error error => (error.response, tasks)
      | .ok filter =>
          match listTasks TaskStore.repository filter tasks with
          | (.ok found, tasks) => (valueResponse 200 (Json.Codec.list Task.shape.codec) found, tasks)
          | (.error error, tasks) => ((ApiError.ofTask error).response, tasks)
  | .create =>
      match readBody CreateTaskRequest.shape.codec request with
      | .error error => (error.response, tasks)
      | .ok body =>
          let (result, tasks) :=
            createTask TaskStore.repository body occasion.taskId occasion.now tasks
          (taskResponse 201 result, tasks)
  | .get segment =>
      match percentText? segment with
      | none => (unreadableId, tasks)
      | some id =>
          let (result, tasks) := getTask TaskStore.repository id tasks
          (taskResponse 200 result, tasks)
  | .update segment =>
      match percentText? segment with
      | none => (unreadableId, tasks)
      | some id =>
          match readBody UpdateTaskRequest.shape.codec request with
          | .error error => (error.response, tasks)
          | .ok body =>
              let (result, tasks) := updateTask TaskStore.repository id body tasks
              (taskResponse 200 result, tasks)

/-- Does what a method asks for on a route for tasks, if it asks for anything. -/
def serveTasks (occasion : Occasion) (request : Request) (action? : Option TaskAction)
    (state : State) : Response × State :=
  match action? with
  | none => (bareResponse 405, state)
  | some action =>
      let (response, tasks) := actOnTasks occasion request action state.tasks
      (response, { state with tasks })

def claimFor (agentId : String) (state : State) : Response × State :=
  let (result, tasks) := claimTask TaskStore.repository agentId state.tasks
  let response := match result with
    | .ok (some task) => taskResponse 200 (.ok task)
    | .ok none => bareResponse 204
    | .error error => (ApiError.ofTask error).response
  (response, { state with tasks })

/-- Lets a request through that is signed as it should be, with the id of the agent that signed. -/
def Service.whenSigned (service : Service) (occasion : Occasion) (request : Request)
    (state : State) (serve : String → State → Response × State) : Response × State :=
  match SignedHeaders.ofHeaders request.headers with
  | .error error => ((ApiError.ofAuth error).response, state)
  | .ok signed =>
      let (result, agents, nonces) := authenticateAt AgentStore.repository service.window signed
        occasion.now.seconds state.agents state.nonces
      let state := { state with agents, nonces }
      match result with
      | .error error => ((ApiError.ofAuth error).response, state)
      | .ok () => serve signed.agentId state

/-- Serves a request about tasks, signed if that is asked for. -/
def Service.serveTaskRoute (service : Service) (occasion : Occasion) (request : Request)
    (action? : Option TaskAction) (state : State) : Response × State :=
  if service.unsignedTasks then serveTasks occasion request action? state
  else service.whenSigned occasion request state fun _ => serveTasks occasion request action?

/-- Serves a request on a route. The signature is checked before the method. -/
def Service.serve (service : Service) (occasion : Occasion) (request : Request) (state : State) :
    Route → Response × State
  | .register =>
      if request.method = "POST" then service.registerAgent occasion request state
      else (bareResponse 405, state)
  | .tasks => service.serveTaskRoute occasion request (tasksAction? request.method) state
  | .task segment =>
      service.serveTaskRoute occasion request (taskAction? request.method segment) state
  | .claim =>
      service.whenSigned occasion request state fun agentId state =>
        if request.method = "POST" then claimFor agentId state else (bareResponse 405, state)

/-- Handles a request. A request for the head alone gets its response without the body. -/
def Service.handle (service : Service) (occasion : Occasion) (request : Request) (state : State) :
    Response × State :=
  let (response, state) := match Route.ofTarget? (Target.ofText request.target) with
    | none => (bareResponse 404, state)
    | some route => service.serve occasion request state route
  (if request.method = "HEAD" then response.head else response, state)

end Muster.ControlPlane
