import Muster.Proofs.FailedRequests
import Muster.Proofs.ServerRun
/-!
When the control plane blames itself. The only error that is no caller's fault is a refusal of a
store that nobody is ready for. The stores in memory give none, as long as new agents and tasks get
ids that are free and the indexes of the agents are in order.
-/
namespace Muster.ControlPlane

open Auth Http Store Time

/-- A result that is no refusal of a store. -/
def TaskError.Foreseen {α : Type} (result : Except TaskError α) : Prop :=
  ∀ refusal, result ≠ .error (.store refusal)

section Operations
variable {tasks : TaskStore}

theorem createTask_foreseen {id : String} (hfree : tasks.findById? id = none)
    (request : CreateTaskRequest) (now : Instant) :
    TaskError.Foreseen (createTask TaskStore.repository request id now tasks).1 := by
  intro refusal
  simp only [createTask, TaskStore.repository]
  cases hvalid : validateCreate request with
  | error violations => simp
  | ok _ =>
      rcases tasks.create_cases (newTask request id now) with ⟨-, hcreate⟩ | ⟨htaken, -⟩
      · simp only [hcreate, ne_eq, reduceCtorEq, not_false_eq_true]
      · exact absurd (Option.map_eq_none_iff.1 hfree) htaken

theorem listTasks_foreseen (filter : TaskFilter) :
    TaskError.Foreseen (listTasks TaskStore.repository filter tasks).1 := by
  intro refusal
  simp [listTasks, storeResult, TaskStore.repository]

theorem getTask_foreseen (id : String) :
    TaskError.Foreseen (getTask TaskStore.repository id tasks).1 := by
  intro refusal
  simp only [getTask, TaskStore.repository]
  cases tasks.findById? id <;> simp

/-- The two refusals of an update are told in terms of the task. -/
theorem updateTask_foreseen (id : String) (request : UpdateTaskRequest) :
    TaskError.Foreseen (updateTask TaskStore.repository id request tasks).1 := by
  intro refusal
  simp only [updateTask, TaskStore.repository]
  cases validateUpdate request with
  | error violations => simp
  | ok update =>
      simp only [TaskStore.update]
      cases tasks.tasks.get? id with
      | none => simp
      | some entry =>
          obtain ⟨number, task⟩ := entry
          cases hmove : task.status.canMoveTo update.status <;> simp [hmove]

theorem claimTask_foreseen (agentId : String) :
    TaskError.Foreseen (claimTask TaskStore.repository agentId tasks).1 := by
  intro refusal
  simp [claimTask, storeResult, TaskStore.repository]

theorem Ending.ne_store {request : RegistrationRequest} {agentId : String} {now : Instant}
    {agents next : AgentStore} {result : Except RegistryError AgentRecord}
    (hending : Ending request agentId now agents result next) (refusal : StoreError) :
    result ≠ .error (.store refusal) := by
  cases hending <;> simp

/-- A registration that nothing comes between is never refused by the store without a reason that
the agent is told. -/
theorem register_ne_store {agents : AgentStore} (hagents : agents.Indexed) {agentId : String}
    (hfree : agents.get? agentId = none) (tokens : BootstrapTokens)
    (request : RegistrationRequest) (now : Instant) (refusal : StoreError) :
    (register AgentStore.repository tokens request agentId now agents).1 ≠
      .error (.store refusal) := by
  rcases register_cases tokens request now hagents hfree with ⟨-, hresult⟩ | ⟨-, -, hresult⟩ |
    ⟨-, -, hending⟩
  · simp [hresult]
  · simp [hresult]
  · exact hending.ne_store refusal

end Operations

section Responses
variable {occasion : Occasion} {request : Request} {state : State}

theorem ErrorKind.status_ne_internal {kind : ErrorKind} (hkind : kind ≠ .internal) :
    kind.status ≠ ErrorKind.internal.status := by
  cases kind <;> first | exact absurd rfl hkind | decide

theorem readBody_kind {α : Type} {codec : Json.Codec α} {error : ApiError}
    (herror : readBody codec request = .error error) : error.kind = .validation := by
  simp only [readBody] at herror
  split at herror
  · cases herror
    rfl
  · split at herror <;> cases herror
    rfl

theorem readFilter_kind {target : Target} {error : ApiError}
    (herror : readFilter target = .error error) : error.kind = .validation := by
  simp only [readFilter] at herror
  split at herror
  · cases herror
    rfl
  · split at herror <;> cases herror
    rfl

theorem taskResponse_ne_internal {status : Nat} (hstatus : status ≠ ErrorKind.internal.status)
    {result : Except TaskError Task} (hresult : TaskError.Foreseen result) :
    (taskResponse status result).status ≠ ErrorKind.internal.status := by
  cases result with
  | ok task => exact hstatus
  | error error =>
      apply ErrorKind.status_ne_internal
      cases error with
      | store refusal => exact absurd rfl (hresult refusal)
      | validation | notFound | invalidTransition => exact ErrorKind.noConfusion

def registrationAnswer : Except RegistryError AgentRecord → Response
  | .ok record => valueResponse 200 RegistrationResponse.shape.codec (registrationResponse record)
  | .error error => (ApiError.ofRegistry error).response

theorem registrationAnswer_ne_internal {result : Except RegistryError AgentRecord}
    (hresult : ∀ refusal, result ≠ .error (.store refusal)) :
    (registrationAnswer result).status ≠ ErrorKind.internal.status := by
  cases result with
  | ok record => exact (by decide : 200 ≠ ErrorKind.internal.status)
  | error error =>
      apply ErrorKind.status_ne_internal
      cases error with
      | store refusal => exact absurd rfl (hresult refusal)
      | validation | invalidToken | duplicateAgent => exact ErrorKind.noConfusion

/-- A registration is what the registry makes of the body, told in a response. -/
theorem Service.registerAgent_eq (service : Service) {body : RegistrationRequest}
    (hbody : readBody RegistrationRequest.shape.codec request = .ok body) :
    service.registerAgent occasion request state =
      (registrationAnswer (register AgentStore.repository service.tokens body occasion.agentId
          occasion.now state.agents).1,
        { state with agents := (register AgentStore.repository service.tokens body
          occasion.agentId occasion.now state.agents).2 }) := by
  simp only [registerAgent, hbody]
  cases (register AgentStore.repository service.tokens body occasion.agentId occasion.now
    state.agents).1 <;> rfl

/-- What a state must be like for a request: the indexes of its agents are in order, and the ids
that the request would give are free. -/
structure State.ReadyFor (state : State) (occasion : Occasion) : Prop where
  agents : state.agents.Indexed
  agentId : state.agents.get? occasion.agentId = none
  taskId : state.tasks.findById? occasion.taskId = none

theorem actOnTasks_ne_internal {tasks : TaskStore} (hfree : tasks.findById? occasion.taskId = none)
    (action : TaskAction) :
    (actOnTasks occasion request action tasks).1.status ≠ ErrorKind.internal.status := by
  have hrefused : ∀ error : ApiError, error.kind = .validation →
      error.response.status ≠ ErrorKind.internal.status := by
    intro error hkind
    apply ErrorKind.status_ne_internal
    rw [hkind]
    exact ErrorKind.noConfusion
  cases action with
  | list =>
      simp only [actOnTasks]
      cases hfilter : readFilter (Target.ofText request.target) with
      | error error => exact hrefused error (readFilter_kind hfilter)
      | ok filter => exact (by decide : 200 ≠ ErrorKind.internal.status)
  | create =>
      simp only [actOnTasks]
      cases hbody : readBody CreateTaskRequest.shape.codec request with
      | error error => exact hrefused error (readBody_kind hbody)
      | ok body => exact taskResponse_ne_internal (by decide) (createTask_foreseen hfree body _)
  | get segment =>
      simp only [actOnTasks]
      cases percentText? segment with
      | none => exact (by decide : 400 ≠ ErrorKind.internal.status)
      | some id => exact taskResponse_ne_internal (by decide) (getTask_foreseen id)
  | update segment =>
      simp only [actOnTasks]
      cases percentText? segment with
      | none => exact (by decide : 400 ≠ ErrorKind.internal.status)
      | some id =>
          cases hbody : readBody UpdateTaskRequest.shape.codec request with
          | error error => exact hrefused error (readBody_kind hbody)
          | ok body => exact taskResponse_ne_internal (by decide) (updateTask_foreseen id body)

theorem claimFor_ne_internal (agentId : String) :
    (claimFor agentId state).1.status ≠ ErrorKind.internal.status := by
  simp only [claimFor, claimTask, TaskStore.repository, storeResult]
  cases (state.tasks.claimNext agentId).1 with
  | none => exact (by decide : 204 ≠ ErrorKind.internal.status)
  | some task => exact (by decide : 200 ≠ ErrorKind.internal.status)

theorem Handler.run_ne_internal (service : Service) (hready : state.ReadyFor occasion)
    (handler : Handler) :
    (handler.run service occasion request state).1.status ≠ ErrorKind.internal.status := by
  cases handler with
  | tasks action => exact actOnTasks_ne_internal hready.taskId action
  | claim agentId => exact claimFor_ne_internal agentId
  | register =>
      simp only [run]
      cases hbody : readBody RegistrationRequest.shape.codec request with
      | error error =>
          simp only [Service.registerAgent, hbody]
          apply ErrorKind.status_ne_internal
          rw [readBody_kind hbody]
          exact ErrorKind.noConfusion
      | ok body =>
          have hanswer := registrationAnswer_ne_internal
            (register_ne_store hready.agents hready.agentId service.tokens body occasion.now)
          rw [service.registerAgent_eq hbody]
          exact hanswer

theorem Service.handle_ne_internal (service : Service) (hready : state.ReadyFor occasion)
    (request : Request) :
    (service.handle occasion request state).1.status ≠ ErrorKind.internal.status := by
  rw [handle_status]
  rcases service.passage occasion request state with ⟨passage, nonces⟩
  cases passage with
  | noRoute => exact (by decide : 404 ≠ ErrorKind.internal.status)
  | denied error => exact (by decide : ErrorKind.unauthorized.status ≠ ErrorKind.internal.status)
  | noMethod => exact (by decide : 405 ≠ ErrorKind.internal.status)
  | handled handler =>
      have hlater : State.ReadyFor { state with nonces } occasion :=
        ⟨hready.agents, hready.agentId, hready.taskId⟩
      exact handler.run_ne_internal service hlater

end Responses

end Muster.ControlPlane
