import Muster.ControlPlane.Service
/-!
The way of a request through the control plane: it finds a route, passes the gate where the route has
one, and gets to the handler for its method. Handling a request is to follow this way and then to run
that handler, so that what a request can do is what its handler can do.
-/
namespace Muster.ControlPlane

open Auth Http Store Time

/-- What a request can get to. A claim is made for the agent that signed. -/
inductive Handler
  | register
  | tasks (action : TaskAction)
  | claim (agentId : String)
deriving DecidableEq

def Handler.run (service : Service) (occasion : Occasion) (request : Request) (state : State) :
    Handler → Response × State
  | .register => service.registerAgent occasion request state
  | .tasks action =>
      let (response, store) := actOnTasks occasion request action state.tasks
      (response, { state with tasks := store })
  | .claim agentId => claimFor agentId state

/-- How far a request comes. -/
inductive Passage
  | noRoute
  | denied (error : AuthError)
  | noMethod
  | handled (handler : Handler)
deriving DecidableEq

/-- The passage to a handler, if there is one for the method. -/
def Passage.to : Option Handler → Passage
  | none => .noMethod
  | some handler => .handled handler

def Service.guards (service : Service) : Route → Bool
  | .register => false
  | .tasks | .task _ => !service.unsignedTasks
  | .claim => true

/-- The handler for a method, on a route without a gate or behind the gate that let an agent in. -/
def Route.handler? (method agentId : String) : Route → Option Handler
  | .register => if method = "POST" then some .register else none
  | .tasks => (tasksAction? method).map .tasks
  | .task segment => (taskAction? method segment).map .tasks
  | .claim => if method = "POST" then some (.claim agentId) else none

/-- The gate: the agent that signed, or why the request is not let in, and the nonces behind it. -/
def Service.gate (service : Service) (occasion : Occasion) (request : Request) (state : State) :
    Except AuthError String × NonceCache :=
  match SignedHeaders.ofHeaders request.headers with
  | .error error => (.error error, state.nonces)
  | .ok signed =>
      let (result, _, nonces) := authenticateAt AgentStore.repository service.window signed
        occasion.now.seconds state.agents state.nonces
      (result.map fun _ => signed.agentId, nonces)

/-- The passage of a request on a route, and the nonces behind it. -/
def Service.passageOn (service : Service) (occasion : Occasion) (request : Request) (state : State)
    (route : Route) : Passage × NonceCache :=
  if service.guards route then
    match service.gate occasion request state with
    | (.error error, nonces) => (.denied error, nonces)
    | (.ok agentId, nonces) => (.to (route.handler? request.method agentId), nonces)
  else (.to (route.handler? request.method ""), state.nonces)

/-- The passage of a request, and the nonces behind it. -/
def Service.passage (service : Service) (occasion : Occasion) (request : Request) (state : State) :
    Passage × NonceCache :=
  match Route.ofTarget? (Target.ofText request.target) with
  | none => (.noRoute, state.nonces)
  | some route => service.passageOn occasion request state route

def Passage.serve (service : Service) (occasion : Occasion) (request : Request) (state : State) :
    Passage → Response × State
  | .noRoute => (bareResponse 404, state)
  | .denied error => ((ApiError.ofAuth error).response, state)
  | .noMethod => (bareResponse 405, state)
  | .handled handler => handler.run service occasion request state

theorem authenticateAt_agents (window : Int) (signed : SignedHeaders) (now : Int)
    (agents : AgentStore) (nonces : NonceCache) :
    (authenticateAt AgentStore.repository window signed now agents nonces).2.1 = agents := by
  simp only [authenticateAt, AgentStore.repository]
  split
  · rename_i heq
    exact (Prod.mk.inj heq).2.symm
  · rename_i heq
    exact (Prod.mk.inj heq).2.symm

/-- What stands behind the gate is done for the agent that signed, or not at all. -/
theorem Service.whenSigned_eq (service : Service) (occasion : Occasion) (request : Request)
    (state : State) (serve : String → State → Response × State) :
    service.whenSigned occasion request state serve =
      match service.gate occasion request state with
      | (.error error, nonces) => ((ApiError.ofAuth error).response, { state with nonces })
      | (.ok agentId, nonces) => serve agentId { state with nonces } := by
  simp only [whenSigned, gate]
  cases SignedHeaders.ofHeaders request.headers with
  | error error => rfl
  | ok signed =>
      have hagents := authenticateAt_agents service.window signed occasion.now.seconds state.agents
        state.nonces
      rcases hresult : authenticateAt AgentStore.repository service.window signed
        occasion.now.seconds state.agents state.nonces with ⟨result, agents, nonces⟩
      rw [hresult] at hagents
      subst hagents
      simp only [hresult]
      cases result <;> rfl

theorem serveTasks_eq (service : Service) (occasion : Occasion) (request : Request)
    (action? : Option TaskAction) (state : State) :
    serveTasks occasion request action? state =
      (Passage.to (action?.map .tasks)).serve service occasion request state := by
  cases action? <;> rfl

theorem Service.serveTaskRoute_eq (service : Service) (occasion : Occasion) (request : Request)
    (state : State) {route : Route} {action? : Option TaskAction}
    (hguards : service.guards route = !service.unsignedTasks)
    (hhandler : ∀ agentId, route.handler? request.method agentId = action?.map .tasks) :
    service.serveTaskRoute occasion request action? state =
      (service.passageOn occasion request state route).1.serve service occasion request
        { state with nonces := (service.passageOn occasion request state route).2 } := by
  simp only [serveTaskRoute, passageOn, hguards, hhandler]
  cases service.unsignedTasks with
  | true => exact serveTasks_eq service occasion request action? state
  | false =>
      simp only [Bool.false_eq_true, Bool.not_false, ↓reduceIte, whenSigned_eq]
      rcases service.gate occasion request state with ⟨result, nonces⟩
      cases result with
      | error error => rfl
      | ok agentId => exact serveTasks_eq service occasion request action? _

theorem Service.serve_eq (service : Service) (occasion : Occasion) (request : Request)
    (state : State) (route : Route) :
    service.serve occasion request state route =
      (service.passageOn occasion request state route).1.serve service occasion request
        { state with nonces := (service.passageOn occasion request state route).2 } := by
  cases route with
  | register =>
      simp only [serve, passageOn, guards, Route.handler?, Bool.false_eq_true, ↓reduceIte]
      by_cases hmethod : request.method = "POST"
      · simp only [hmethod, ↓reduceIte]
        rfl
      · simp only [hmethod, ↓reduceIte]
        rfl
  | tasks => exact service.serveTaskRoute_eq occasion request state rfl fun _ => rfl
  | task segment => exact service.serveTaskRoute_eq occasion request state rfl fun _ => rfl
  | claim =>
      simp only [serve, passageOn, guards, Route.handler?, ↓reduceIte, whenSigned_eq]
      rcases service.gate occasion request state with ⟨result, nonces⟩
      cases result with
      | error error => rfl
      | ok agentId =>
          by_cases hmethod : request.method = "POST"
          · simp only [hmethod, ↓reduceIte]
            rfl
          · simp only [hmethod, ↓reduceIte]
            rfl

/-- Handling a request is to follow its passage and to do what is done at the end of it. -/
theorem Service.handle_eq (service : Service) (occasion : Occasion) (request : Request)
    (state : State) :
    service.handle occasion request state =
      let (response, next) := (service.passage occasion request state).1.serve service occasion
        request { state with nonces := (service.passage occasion request state).2 }
      (if request.method = "HEAD" then response.head else response, next) := by
  simp only [handle, passage]
  cases Route.ofTarget? (Target.ofText request.target) with
  | none => rfl
  | some route => simp only [serve_eq]

theorem Service.handle_state (service : Service) (occasion : Occasion) (request : Request)
    (state : State) :
    (service.handle occasion request state).2 =
      ((service.passage occasion request state).1.serve service occasion request
        { state with nonces := (service.passage occasion request state).2 }).2 := by
  rw [handle_eq]

theorem Service.handle_status (service : Service) (occasion : Occasion) (request : Request)
    (state : State) :
    (service.handle occasion request state).1.status =
      ((service.passage occasion request state).1.serve service occasion request
        { state with nonces := (service.passage occasion request state).2 }).1.status := by
  rw [handle_eq]
  by_cases hhead : request.method = "HEAD"
  · simp only [hhead, ↓reduceIte, Response.head]
  · simp only [hhead, ↓reduceIte]

theorem actOnTasks_list (occasion : Occasion) (request : Request) (tasks : TaskStore) :
    (actOnTasks occasion request .list tasks).2 = tasks := by
  simp only [actOnTasks, listTasks, TaskStore.repository, storeResult]
  cases readFilter (Target.ofText request.target) <;> rfl

theorem actOnTasks_get (occasion : Occasion) (request : Request) (segment : String)
    (tasks : TaskStore) : (actOnTasks occasion request (.get segment) tasks).2 = tasks := by
  simp only [actOnTasks]
  cases percentText? segment with
  | none => rfl
  | some id =>
      simp only [getTask, TaskStore.repository]
      cases tasks.findById? id <;> rfl

/-- A registration changes agents alone. -/
theorem Service.registerAgent_frame (service : Service) (occasion : Occasion) (request : Request)
    (state : State) :
    (service.registerAgent occasion request state).2.tasks = state.tasks ∧
      (service.registerAgent occasion request state).2.nonces = state.nonces := by
  simp only [registerAgent]
  cases hbody : readBody RegistrationRequest.shape.codec request with
  | error error => exact ⟨rfl, rfl⟩
  | ok body =>
      rcases hregister : register AgentStore.repository service.tokens body occasion.agentId
        occasion.now state.agents with ⟨result, agents⟩
      cases result with
      | ok record => simp only [hregister, and_self]
      | error error => simp only [hregister, and_self]

theorem Service.handle_nonces (service : Service) (occasion : Occasion) (request : Request)
    (state : State) : (service.handle occasion request state).2.nonces =
      (service.passage occasion request state).2 := by
  rw [handle_state]
  rcases service.passage occasion request state with ⟨passage, nonces⟩
  cases passage with
  | noRoute | denied | noMethod => rfl
  | handled handler =>
      cases handler with
      | register => exact (service.registerAgent_frame occasion request { state with nonces }).2
      | tasks action => rfl
      | claim agentId => rfl

end Muster.ControlPlane
