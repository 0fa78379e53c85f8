import Muster.Proofs.Dispatch
import Muster.Proofs.RegistrationDecision
import Muster.Proofs.ReplayGate
import Muster.Proofs.TaskLifecycle
/-!
Requests that fail leave no trace. Every store refuses before its first write, every handler answers
with success once a store has written, and the gate keeps a nonce only of a request that it lets in.
-/
namespace Muster.Store

theorem AgentStore.create_of_error {store next : AgentStore} {record : AgentRecord}
    {error : StoreError} (hcreate : store.create record = (.error error, next)) : next = store := by
  rcases store.create_cases record with ⟨holder, _, hresult⟩ | ⟨holder, _, _, _, hresult⟩ |
    ⟨_, _, created, hresult, _⟩
  · rw [hresult] at hcreate
    exact (Prod.mk.inj hcreate).2.symm
  · rw [hresult] at hcreate
    exact (Prod.mk.inj hcreate).2.symm
  · rw [hresult] at hcreate
    cases (Prod.mk.inj hcreate).1

/-- The write of an update puts the record in place, or leaves the store as it was. -/
theorem AgentStore.writeRecord_cases (store : AgentStore) (record : AgentRecord)
    (previous : String) :
    (∃ next, store.writeRecord record previous = (.written previous, next) ∧
      ∀ id, next.get? id = if id = record.agentId then some record else store.get? id) ∨
    ∃ error, store.writeRecord record previous = (.over (.error error), store) := by
  have hput := store.get?_putRecord record
  have hreplace : store.replace record previous = (.written previous, store.putRecord record) ∨
      ∃ error, store.replace record previous = (.over (.error error), store) := by
    simp only [replace]
    split
    · exact Or.inl rfl
    · exact Or.inr ⟨_, rfl⟩
  simp only [writeRecord]
  split
  · exact hreplace.imp_left fun hnext => ⟨_, hnext, hput⟩
  · split
    · rename_i holder hheld
      split
      · exact hreplace.imp_left fun hnext => ⟨_, hnext, hput⟩
      · exact Or.inr ⟨_, rfl⟩
    · rcases hreplace with hnext | ⟨error, herror⟩
      · exact Or.inl ⟨(store.putRecord record).takeKey record.publicKey record.agentId,
          by rw [hnext], hput⟩
      · exact Or.inr ⟨error, by rw [herror]⟩

/-- An update puts the record in place, or leaves the store as it was. -/
theorem AgentStore.update_outcomes (store : AgentStore) (record : AgentRecord) :
    (∃ next, store.update record = (.ok (), next) ∧
      ∀ id, next.get? id = if id = record.agentId then some record else store.get? id) ∨
    ∃ error, store.update record = (.error error, store) := by
  simp only [update, readPreviousKey]
  cases store.get? record.agentId with
  | none => exact Or.inr ⟨_, rfl⟩
  | some previous =>
      rcases store.writeRecord_cases record previous.publicKey with ⟨written, hwrite, hget⟩ |
        ⟨refusal, hwrite⟩
      · simp only [hwrite]
        exact Or.inl ⟨_, rfl, fun id => (get?_releaseKey _ _ _ id).trans (hget id)⟩
      · simp only [hwrite]
        exact Or.inr ⟨_, rfl⟩

theorem AgentStore.update_of_error {store next : AgentStore} {record : AgentRecord}
    {error : StoreError} (hupdate : store.update record = (.error error, next)) : next = store := by
  rcases store.update_outcomes record with ⟨written, hresult, -⟩ | ⟨refusal, hresult⟩
  · rw [hresult] at hupdate
    cases (Prod.mk.inj hupdate).1
  · rw [hresult] at hupdate
    exact (Prod.mk.inj hupdate).2.symm

end Muster.Store

namespace Muster.ControlPlane

open Auth Http Store Time

/-- A call of a registration that changes the store is its last one, and the registration succeeds. -/
theorem registrationStep_cases (admission : Admission) (agentId : String) (now : Instant)
    (stage : RegistrationStage) (agents : AgentStore) :
    (∃ record, (registrationStep AgentStore.repository admission agentId now stage agents).1 =
      .over (.ok record)) ∨
    (registrationStep AgentStore.repository admission agentId now stage agents).2 = agents := by
  cases stage with
  | checkKey | checkFingerprint | findWinner | «over» => exact Or.inr rfl
  | create record =>
      simp only [registrationStep, RegistrationStage.call?, perform, AgentStore.repository]
      rcases hcreate : agents.create record with ⟨result, next⟩
      cases result with
      | ok _ => exact Or.inl ⟨record, rfl⟩
      | error error => exact Or.inr (AgentStore.create_of_error hcreate)
  | update record =>
      simp only [registrationStep, RegistrationStage.call?, perform, AgentStore.repository]
      rcases hupdate : agents.update record with ⟨result, next⟩
      cases result with
      | ok _ => exact Or.inl ⟨record, rfl⟩
      | error error => exact Or.inr (AgentStore.update_of_error hupdate)

theorem runRegistration_cases (admission : Admission) (agentId : String) (now : Instant)
    (steps : Nat) (stage : RegistrationStage) (agents : AgentStore) :
    (∃ record, (runRegistration AgentStore.repository admission agentId now steps stage agents).1 =
      .over (.ok record)) ∨
    (runRegistration AgentStore.repository admission agentId now steps stage agents).2 = agents := by
  induction steps generalizing stage agents with
  | zero => exact Or.inr rfl
  | succ steps ih =>
      simp only [runRegistration]
      rcases registrationStep_cases admission agentId now stage agents with ⟨record, hover⟩ | hsame
      · rw [hover, runRegistration_over]
        exact Or.inl ⟨record, rfl⟩
      · rw [hsame]
        exact ih _ agents

/-- A registration that fails has changed nothing, whatever the store was like. -/
theorem register_of_error {tokens : BootstrapTokens} {request : RegistrationRequest}
    {agentId : String} {now : Instant} {agents next : AgentStore} {error : RegistryError}
    (hregister : register AgentStore.repository tokens request agentId now agents =
      (.error error, next)) : next = agents := by
  simp only [register] at hregister
  cases hadmitted : Admission.ofRequest tokens request with
  | error refusal =>
      simp only [hadmitted] at hregister
      exact (Prod.mk.inj hregister).2.symm
  | ok admission =>
      simp only [hadmitted] at hregister
      have hcases := runRegistration_cases admission agentId now mostCalls .checkKey agents
      rcases hrun : runRegistration AgentStore.repository admission agentId now mostCalls .checkKey
        agents with ⟨stage, behind⟩
      rw [hrun] at hregister hcases
      rcases hcases with ⟨record, hover⟩ | hsame
      · change stage = _ at hover
        subst hover
        cases (Prod.mk.inj hregister).1
      · change behind = agents at hsame
        rw [← hsame]
        cases stage <;> exact (Prod.mk.inj hregister).2.symm

theorem Service.registerAgent_failed {service : Service} {occasion : Occasion} {request : Request}
    {state : State}
    (hfailed : isSuccess (service.registerAgent occasion request state).1.status = false) :
    (service.registerAgent occasion request state).2 = state := by
  simp only [registerAgent] at hfailed ⊢
  cases hbody : readBody RegistrationRequest.shape.codec request with
  | error error => rfl
  | ok body =>
      rcases hregister : register AgentStore.repository service.tokens body occasion.agentId
        occasion.now state.agents with ⟨result, agents⟩
      simp only [hbody, hregister] at hfailed ⊢
      cases result with
      | ok record => cases hfailed
      | error error =>
          have hsame := register_of_error hregister
          subst hsame
          rfl

theorem taskResponse_failed {status : Nat} (hstatus : isSuccess status = true)
    {result : Except TaskError Task}
    (hfailed : isSuccess (taskResponse status result).status = false) :
    ∃ error, result = .error error := by
  cases result with
  | error error => exact ⟨error, rfl⟩
  | ok task =>
      change isSuccess status = false at hfailed
      rw [hstatus] at hfailed
      cases hfailed

theorem createTask_of_error {request : CreateTaskRequest} {id : String} {now : Instant}
    {tasks : TaskStore}
    (hfailed : ∃ error, (createTask TaskStore.repository request id now tasks).1 = .error error) :
    (createTask TaskStore.repository request id now tasks).2 = tasks := by
  obtain ⟨error, herror⟩ := hfailed
  refine (QueueCall.effect_perform tasks (.create request id now)).trace (Or.inl ⟨error, ?_⟩)
  simp only [QueueCall.perform, herror, Except.map]

theorem updateTask_of_error {id : String} {request : UpdateTaskRequest} {tasks : TaskStore}
    (hfailed : ∃ error, (updateTask TaskStore.repository id request tasks).1 = .error error) :
    (updateTask TaskStore.repository id request tasks).2 = tasks := by
  obtain ⟨error, herror⟩ := hfailed
  refine (QueueCall.effect_perform tasks (.update id request)).trace (Or.inl ⟨error, ?_⟩)
  simp only [QueueCall.perform, herror, Except.map]

theorem actOnTasks_failed {occasion : Occasion} {request : Request} {action : TaskAction}
    {tasks : TaskStore}
    (hfailed : isSuccess (actOnTasks occasion request action tasks).1.status = false) :
    (actOnTasks occasion request action tasks).2 = tasks := by
  cases action with
  | list => exact actOnTasks_list occasion request tasks
  | create =>
      simp only [actOnTasks] at hfailed ⊢
      cases hbody : readBody CreateTaskRequest.shape.codec request with
      | error error => rfl
      | ok body =>
          simp only [hbody] at hfailed
          exact createTask_of_error (taskResponse_failed rfl hfailed)
  | get segment => exact actOnTasks_get occasion request segment tasks
  | update segment =>
      simp only [actOnTasks] at hfailed ⊢
      cases hid : percentText? segment with
      | none => rfl
      | some id =>
          cases hbody : readBody UpdateTaskRequest.shape.codec request with
          | error error => rfl
          | ok body =>
              simp only [hid, hbody] at hfailed
              exact updateTask_of_error (taskResponse_failed rfl hfailed)

theorem claimFor_failed {agentId : String} {state : State}
    (hfailed : isSuccess (claimFor agentId state).1.status = false) :
    (claimFor agentId state).2 = state := by
  simp only [claimFor, claimTask, TaskStore.repository, storeResult] at hfailed ⊢
  rcases hclaim : state.tasks.claimNext agentId with ⟨claimed, tasks⟩
  rw [hclaim] at hfailed
  cases claimed with
  | none => cases hfailed
  | some task => cases hfailed

/-- Each handler changes the stores only if it answers with success. -/
theorem Handler.run_failed {service : Service} {occasion : Occasion} {request : Request}
    {state : State} {handler : Handler}
    (hfailed : isSuccess (handler.run service occasion request state).1.status = false) :
    (handler.run service occasion request state).2 = state := by
  cases handler with
  | register =>
      simp only [Handler.run] at hfailed ⊢
      exact Service.registerAgent_failed hfailed
  | tasks action =>
      simp only [Handler.run] at hfailed ⊢
      rw [actOnTasks_failed hfailed]
  | claim agentId =>
      simp only [Handler.run] at hfailed ⊢
      exact claimFor_failed hfailed

/-- A passage that does not end in success changes nothing on its last step. -/
theorem Passage.serve_failed {service : Service} {occasion : Occasion} {request : Request}
    {state : State} {passage : Passage}
    (hfailed : isSuccess (passage.serve service occasion request state).1.status = false) :
    (passage.serve service occasion request state).2 = state := by
  cases passage with
  | noRoute | denied | noMethod => rfl
  | handled handler =>
      simp only [Passage.serve] at hfailed ⊢
      exact Handler.run_failed hfailed

/-- A request on a route that asks for a signature is turned away there. -/
def Service.Denies (service : Service) (occasion : Occasion) (request : Request) (state : State)
    (error : AuthError) : Prop :=
  ∃ route, Route.ofTarget? (Target.ofText request.target) = some route ∧
    service.guards route = true ∧
    (SignedHeaders.ofHeaders request.headers = .error error ∨
      ∃ signed, SignedHeaders.ofHeaders request.headers = .ok signed ∧
        (authenticateAt AgentStore.repository service.window signed occasion.now.seconds
          state.agents state.nonces).1 = .error error)

theorem Service.gate_of_error {service : Service} {occasion : Occasion} {request : Request}
    {state : State} {error : AuthError}
    (herror : SignedHeaders.ofHeaders request.headers = .error error ∨
      ∃ signed, SignedHeaders.ofHeaders request.headers = .ok signed ∧
        (authenticateAt AgentStore.repository service.window signed occasion.now.seconds
          state.agents state.nonces).1 = .error error) :
    service.gate occasion request state = (.error error, state.nonces) := by
  simp only [gate]
  rcases herror with hheaders | ⟨signed, hheaders, hresult⟩
  · simp only [hheaders]
  · simp only [hheaders]
    rcases authenticateAt_cases state.agents service.window signed occasion.now.seconds
      state.nonces with ⟨_, haccepted⟩ | ⟨_, refusal, hrefused⟩
    · rw [haccepted] at hresult
      cases hresult
    · rw [hrefused] at hresult ⊢
      cases hresult
      rfl

theorem Service.Denies.passage {service : Service} {occasion : Occasion} {request : Request}
    {state : State} {error : AuthError} (hdenies : service.Denies occasion request state error) :
    service.passage occasion request state = (.denied error, state.nonces) := by
  obtain ⟨route, hroute, hguards, herror⟩ := hdenies
  simp only [Service.passage, Service.passageOn, hroute, hguards, ↓reduceIte,
    Service.gate_of_error herror]

/-- What a request leaves behind that does not succeed. -/
structure LeavesNoTrace (service : Service) (occasion : Occasion) (request : Request)
    (state : State) : Prop where
  /-- Without success, agents and tasks are as they were. -/
  stores : isSuccess (service.handle occasion request state).1.status = false →
    (service.handle occasion request state).2.agents = state.agents ∧
      (service.handle occasion request state).2.tasks = state.tasks
  /-- A request that is turned away for its signature changes nothing at all. -/
  denied : ∀ error, service.Denies occasion request state error →
    (service.handle occasion request state).1.status = 401 ∧
      (service.handle occasion request state).2 = state
  /-- It gets to no handler, whatever that would have done. -/
  unhandled : ∀ error, service.Denies occasion request state error →
    (∀ handler, (service.passage occasion request state).1 ≠ .handled handler) ∧
      ∀ serve, service.whenSigned occasion request state serve =
        ((ApiError.ofAuth error).response, state)

/-- A request that fails leaves no trace in the stores, in any state of the service and on every
route; one that is turned away for its signature leaves none in the replay cache either, and nothing
is done for it. -/
theorem failed_request_leaves_no_trace (service : Service) (occasion : Occasion)
    (request : Request) (state : State) : LeavesNoTrace service occasion request state where
  stores hfailed := by
    rw [Service.handle_status] at hfailed
    rw [Service.handle_state, Passage.serve_failed hfailed]
    exact ⟨rfl, rfl⟩
  denied error hdenies := by
    rw [Service.handle_status, Service.handle_state, hdenies.passage]
    exact ⟨rfl, rfl⟩
  unhandled error hdenies := by
    refine ⟨?_, ?_⟩
    · intro handler
      rw [hdenies.passage]
      exact Passage.noConfusion
    · intro serve
      obtain ⟨route, _, _, herror⟩ := hdenies
      rw [Service.whenSigned_eq, Service.gate_of_error herror]

end Muster.ControlPlane
