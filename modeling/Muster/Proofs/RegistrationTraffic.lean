import Muster.Proofs.InternalErrors
/-!
The control plane with many requests at once. A registration makes its calls to the store of agents
one by one, and anything may come between two of them: other registrations, and requests of all
other kinds, which are handled at one go. Seen from the store of agents this is a race of
registrations, so that what holds in every race holds here.
-/
namespace Muster.ControlPlane

open Auth Http Store Time

/-- A request that comes in, and the ids that a new agent and a new task would get from it. -/
structure Arrival where
  request : Request
  agentId : String
  taskId : String

/-- The occasion on which the control plane turns to the request. -/
def Arrival.occasion (arrival : Arrival) (now : ClockTime) : Occasion :=
  ⟨now, arrival.agentId, arrival.taskId⟩

/-- The registration that a request asks for, if it gets to the registry. -/
def registrationOf? (request : Request) : Option RegistrationRequest :=
  if Route.ofTarget? (Target.ofText request.target) = some .register ∧ request.method = "POST" then
    (readBody RegistrationRequest.shape.codec request).toOption
  else none

/-- What such a request asks of the registry. Other requests ask nothing of it, and for them it does
not matter what stands here. -/
def Arrival.call (arrival : Arrival) : RegisterCall :=
  ⟨(registrationOf? arrival.request).getD ⟨"", "", "", "", "", []⟩, arrival.agentId⟩

/-- How far the control plane has come with a request. A registration that is over is answered. -/
inductive Progress
  | waiting
  | registering (stage : RegistrationStage)
  | answered (response : Response)

def Progress.response? : Progress → Option Response
  | .registering (.over result) => some (registrationAnswer result)
  | .answered response => some response
  | .waiting | .registering _ => none

/-- What the control plane keeps, and how far it has come with each request. -/
structure Traffic (ι : Type) where
  state : State
  progress : ι → Progress

/-- What can happen next: the control plane goes on with a request, or sweeps out expired nonces. -/
inductive Traffic.Move (ι : Type)
  | serve (i : ι) (now : ClockTime)
  | sweep (now : Instant)

section
variable {ι : Type} [DecidableEq ι] (service : Service) (arrivals : ι → Arrival)

/-- The control plane goes on with a request. A registration is checked first and then makes one
call to the store at a time; all other requests are handled at once. -/
def Traffic.serve (traffic : Traffic ι) (i : ι) (now : ClockTime) : Traffic ι :=
  let arrival := arrivals i
  match traffic.progress i with
  | .waiting =>
      if (registrationOf? arrival.request).isSome then
        let first := arrival.call.firstStage service.tokens
        ⟨traffic.state, Function.update traffic.progress i (.registering first)⟩
      else
        let (response, state) := service.handle (arrival.occasion now) arrival.request traffic.state
        ⟨state, Function.update traffic.progress i (.answered response)⟩
  | .registering stage =>
      let (stage, agents) := registrationStep AgentStore.repository arrival.call.admission
        arrival.agentId now stage traffic.state.agents
      ⟨{ traffic.state with agents }, Function.update traffic.progress i (.registering stage)⟩
  | .answered _ => traffic

def Traffic.step (traffic : Traffic ι) : Traffic.Move ι → Traffic ι
  | .serve i now => traffic.serve service arrivals i now
  | .sweep now =>
      let nonces := traffic.state.nonces.evictExpired now.seconds
      ⟨{ traffic.state with nonces }, traffic.progress⟩

/-- The traffic behind some moves, from the empty state on. -/
def Traffic.run (moves : List (Traffic.Move ι)) : Traffic ι :=
  moves.foldl (Traffic.step service arrivals) ⟨State.empty, fun _ => .waiting⟩

theorem Traffic.run_snoc (moves : List (Traffic.Move ι)) (move : Traffic.Move ι) :
    Traffic.run service arrivals (moves ++ [move]) =
      (Traffic.run service arrivals moves).step service arrivals move := by
  rw [run, run, List.foldl_concat]

/-- The stage of a registration. One that has not begun is at its first stage. -/
def Progress.stage (first : RegistrationStage) : Progress → RegistrationStage
  | .registering stage => stage
  | .waiting | .answered _ => first

/-- The traffic as the store of agents sees it. -/
def Traffic.race (traffic : Traffic ι) : Race ι :=
  ⟨traffic.state.agents,
    fun i => (traffic.progress i).stage ((arrivals i).call.firstStage service.tokens)⟩

/-- All that it can mean to go on with a request. -/
inductive Traffic.Served (traffic : Traffic ι) (i : ι) (now : ClockTime) : Traffic ι → Prop
  | begun (hwaiting : traffic.progress i = .waiting)
      (hregistration : (registrationOf? (arrivals i).request).isSome = true) :
      Served traffic i now ⟨traffic.state, Function.update traffic.progress i
        (.registering ((arrivals i).call.firstStage service.tokens))⟩
  | handled (hwaiting : traffic.progress i = .waiting)
      (hother : registrationOf? (arrivals i).request = none) {response : Response} {state : State}
      (hhandle : service.handle ((arrivals i).occasion now) (arrivals i).request traffic.state =
        (response, state)) :
      Served traffic i now ⟨state, Function.update traffic.progress i (.answered response)⟩
  | advanced {stage after : RegistrationStage} {agents : AgentStore}
      (hregistering : traffic.progress i = .registering stage)
      (hstep : registrationStep AgentStore.repository (arrivals i).call.admission
        (arrivals i).agentId now stage traffic.state.agents = (after, agents)) :
      Served traffic i now ⟨{ traffic.state with agents },
        Function.update traffic.progress i (.registering after)⟩
  | settled {response : Response} (hanswered : traffic.progress i = .answered response) :
      Served traffic i now traffic

variable {service arrivals}

theorem Traffic.served (traffic : Traffic ι) (i : ι) (now : ClockTime) :
    Traffic.Served service arrivals traffic i now (traffic.serve service arrivals i now) := by
  simp only [serve]
  cases hprogress : traffic.progress i with
  | answered response => exact .settled hprogress
  | registering stage => exact .advanced hprogress rfl
  | waiting =>
      cases hregistration : registrationOf? (arrivals i).request with
      | some body => exact .begun hprogress (by rw [hregistration]; rfl)
      | none => exact .handled hprogress hregistration rfl

theorem Route.eq_register {route : Route} {method signer : String}
    (hhandler : Passage.to (route.handler? method signer) = .handled .register) :
    route = .register ∧ method = "POST" := by
  cases route with
  | register =>
      simp only [handler?] at hhandler
      split at hhandler
      · next hmethod => exact ⟨rfl, hmethod⟩
      · cases hhandler
  | tasks =>
      simp only [handler?] at hhandler
      cases haction : tasksAction? method with
      | none | some _ =>
          rw [haction] at hhandler
          cases hhandler
  | task segment =>
      simp only [handler?] at hhandler
      cases haction : taskAction? method segment with
      | none | some _ =>
          rw [haction] at hhandler
          cases hhandler
  | claim =>
      simp only [handler?] at hhandler
      split at hhandler <;> cases hhandler

/-- A request that asks nothing of the registry leaves the agents alone. -/
theorem Service.handle_agents {request : Request} (hother : registrationOf? request = none)
    (occasion : Occasion) (state : State) :
    (service.handle occasion request state).2.agents = state.agents := by
  rw [handle_state]
  rcases hpassage : service.passage occasion request state with ⟨passage, nonces⟩
  cases passage with
  | noRoute | denied | noMethod => rfl
  | handled handler =>
      cases handler with
      | tasks action => rfl
      | claim agentId => rfl
      | register =>
          obtain ⟨route, signer, hroute, hhandler⟩ :=
            service.handler_of_passage (congrArg Prod.fst hpassage)
          obtain ⟨rfl, hmethod⟩ := Route.eq_register hhandler
          rw [registrationOf?, if_pos ⟨hroute, hmethod⟩] at hother
          simp only [Passage.serve, Handler.run, registerAgent]
          cases hbody : readBody RegistrationRequest.shape.codec request with
          | error error => rfl
          | ok body =>
              rw [hbody] at hother
              cases hother

theorem Traffic.race_update (state : State) (progress : ι → Progress) (i : ι) (later : Progress) :
    Traffic.race service arrivals ⟨state, Function.update progress i later⟩ =
      ⟨state.agents, Function.update (Traffic.race service arrivals ⟨state, progress⟩).stage i
        (later.stage ((arrivals i).call.firstStage service.tokens))⟩ := by
  simp only [race, Race.mk.injEq, true_and]
  funext j
  by_cases hj : j = i
  · subst hj
    rw [Function.update_self, Function.update_self]
  · rw [Function.update_of_ne hj, Function.update_of_ne hj]

/-- A request that is at no registration seems to be at the first stage of one, before and after. -/
theorem Traffic.race_settled {traffic : Traffic ι} {i : ι}
    (hwaiting : traffic.progress i = .waiting) {state : State}
    (hagents : state.agents = traffic.state.agents) {later : Progress}
    (hlater : later.stage ((arrivals i).call.firstStage service.tokens) =
      (arrivals i).call.firstStage service.tokens) :
    Traffic.race service arrivals ⟨state, Function.update traffic.progress i later⟩ =
      traffic.race service arrivals := by
  have hstage : (arrivals i).call.firstStage service.tokens =
      (traffic.race service arrivals).stage i := by
    simp only [race, hwaiting, Progress.stage]
  rw [race_update, hlater, hagents, hstage]
  exact congrArg _ (Function.update_eq_self _ _)

/-- Going on with a request is a move of the race, or the store of agents sees nothing of it. -/
theorem Traffic.Served.race {traffic next : Traffic ι} {i : ι} {now : ClockTime}
    (hserved : Traffic.Served service arrivals traffic i now next) :
    next.race service arrivals = traffic.race service arrivals ∨
      next.race service arrivals =
        (traffic.race service arrivals).step (fun i => (arrivals i).call) (i, now) := by
  cases hserved with
  | begun hwaiting hregistration => exact Or.inl (race_settled hwaiting rfl rfl)
  | handled hwaiting hother hhandle =>
      have hagents := service.handle_agents hother ((arrivals i).occasion now) traffic.state
      rw [hhandle] at hagents
      exact Or.inl (race_settled hwaiting hagents rfl)
  | @advanced stage after agents hregistering hstep =>
      have hstage : (traffic.race service arrivals).stage i = stage :=
        congrArg (Progress.stage _) hregistering
      have hmove : (traffic.race service arrivals).step (fun i => (arrivals i).call) (i, now) =
          ⟨agents, Function.update (traffic.race service arrivals).stage i after⟩ := by
        simp only [Race.step, hstage]
        exact congrArg (fun moved => (⟨moved.2, Function.update _ i moved.1⟩ : Race ι)) hstep
      rw [hmove, race_update]
      exact Or.inr rfl
  | settled hanswered => exact Or.inl rfl

theorem Traffic.race_step (traffic : Traffic ι) (move : Traffic.Move ι) :
    (traffic.step service arrivals move).race service arrivals = traffic.race service arrivals ∨
      ∃ i now, (traffic.step service arrivals move).race service arrivals =
        (traffic.race service arrivals).step (fun i => (arrivals i).call) (i, now) := by
  cases move with
  | sweep now => exact Or.inl rfl
  | serve i now => exact (traffic.served i now).race.imp_right fun hstep => ⟨i, now, hstep⟩

theorem Traffic.race_invariant (hfresh : Function.Injective fun i => (arrivals i).agentId)
    (moves : List (Traffic.Move ι)) :
    ((Traffic.run service arrivals moves).race service arrivals).Invariant
      fun i => (arrivals i).call := by
  induction moves using List.reverseRecOn with
  | nil => exact Race.invariant_start service.tokens _
  | append_singleton moves move ih =>
      rw [run_snoc]
      rcases (Traffic.run service arrivals moves).race_step move with hsame | ⟨i, now, hstep⟩
      · rw [hsame]
        exact ih
      · rw [hstep]
        exact ih.step hfresh _

/-- A request that is still waiting has brought in no agent, and nobody else had its id. -/
theorem Traffic.agent_unborn (hfresh : Function.Injective fun i => (arrivals i).agentId)
    (moves : List (Traffic.Move ι)) {i : ι}
    (hwaiting : (Traffic.run service arrivals moves).progress i = .waiting) :
    (Traffic.run service arrivals moves).state.agents.get? (arrivals i).agentId = none := by
  by_contra hsome
  obtain ⟨j, hid, first, hover, -⟩ := (race_invariant hfresh moves).creators _ hsome
  obtain rfl : j = i := hfresh hid
  have hstage : (arrivals j).call.firstStage service.tokens = .over (.ok first) := by
    simpa only [race, hwaiting, Progress.stage] using hover
  rcases (arrivals j).call.firstStage_cases service.tokens with ⟨hfirst, -⟩ | ⟨error, hfirst, -⟩
  · cases hfirst.symm.trans hstage
  · cases hfirst.symm.trans hstage

/-- What holds of requests that are handled at once: every task came with one of them, and none is
answered with an internal error. -/
structure Traffic.Sound (arrivals : ι → Arrival) (traffic : Traffic ι) : Prop where
  tasks : ∀ id, traffic.state.tasks.findById? id ≠ none →
    ∃ i response, (arrivals i).taskId = id ∧ traffic.progress i = .answered response
  answers : ∀ i response, traffic.progress i = .answered response →
    response.status ≠ ErrorKind.internal.status

/-- A request that is still waiting finds the ids free that it brings. -/
theorem Traffic.readyFor (hfresh : Function.Injective fun i => (arrivals i).agentId)
    (htasks : Function.Injective fun i => (arrivals i).taskId) (moves : List (Traffic.Move ι))
    (hsound : (Traffic.run service arrivals moves).Sound arrivals) {i : ι}
    (hwaiting : (Traffic.run service arrivals moves).progress i = .waiting) (now : ClockTime) :
    (Traffic.run service arrivals moves).state.ReadyFor ((arrivals i).occasion now) := by
  refine ⟨(race_invariant hfresh moves).indexed, agent_unborn hfresh moves hwaiting, ?_⟩
  by_contra hsome
  obtain ⟨j, response, hid, hanswered⟩ := hsound.tasks _ hsome
  obtain rfl : j = i := htasks hid
  cases hwaiting.symm.trans hanswered

/-- A task that was not there before a request has the id that came with it. -/
theorem Service.handle_newTask {occasion : Occasion} {request : Request} {state next : State}
    {response : Response} (hhandle : service.handle occasion request state = (response, next))
    {id : String} (hsome : next.tasks.findById? id ≠ none) :
    state.tasks.findById? id ≠ none ∨ occasion.taskId = id := by
  have hcases := service.handle_tasks occasion request state
  rw [hhandle] at hcases
  rcases hcases with hsame | ⟨handler, call, -, hcalls, hnext⟩
  · exact Or.inl (hsame ▸ hsome)
  · by_cases hnone : state.tasks.findById? id = none
    · obtain ⟨task, htask⟩ := Option.ne_none_iff_exists'.1 hsome
      rw [hnext] at htask
      obtain ⟨body, now, hcall, -, -⟩ := (call.effect_perform state.tasks).new hnone htask
      cases hcalls with
      | create body hbody =>
          cases hcall
          exact Or.inr rfl
      | update segment id hid body hbody => cases hcall
      | claim agentId => cases hcall
    · exact Or.inl hnone

theorem Traffic.Sound.update {traffic : Traffic ι} (hsound : traffic.Sound arrivals) {i : ι}
    (hopen : ∀ response, traffic.progress i ≠ .answered response) {state : State} {later : Progress}
    (htasks : ∀ id, state.tasks.findById? id ≠ none → traffic.state.tasks.findById? id ≠ none ∨
      (arrivals i).taskId = id ∧ ∃ response, later = .answered response)
    (hlater : ∀ response, later = .answered response →
      response.status ≠ ErrorKind.internal.status) :
    Traffic.Sound arrivals ⟨state, Function.update traffic.progress i later⟩ := by
  refine ⟨?_, ?_⟩
  · intro id hsome
    rcases htasks id hsome with hold | ⟨hid, response, hanswered⟩
    · obtain ⟨j, response, hid, hanswered⟩ := hsound.tasks id hold
      have hj : j ≠ i := by
        rintro rfl
        exact hopen response hanswered
      exact ⟨j, response, hid, (Function.update_of_ne hj _ _).trans hanswered⟩
    · exact ⟨i, response, hid, (Function.update_self _ _ _).trans hanswered⟩
  · intro j response hanswered
    by_cases hj : j = i
    · subst hj
      exact hlater response ((Function.update_self _ _ _).symm.trans hanswered)
    · exact hsound.answers j response ((Function.update_of_ne hj _ _).symm.trans hanswered)

/-- Going on with a request answers it at most, and not with an internal error. -/
theorem Traffic.Served.sound {traffic next : Traffic ι} {i : ι} {now : ClockTime}
    (hserved : Traffic.Served service arrivals traffic i now next)
    (hready : traffic.progress i = .waiting → traffic.state.ReadyFor ((arrivals i).occasion now))
    (hsound : traffic.Sound arrivals) : next.Sound arrivals := by
  cases hserved with
  | begun hwaiting hregistration =>
      exact hsound.update (by simp [hwaiting]) (fun _ hsome => Or.inl hsome) (by simp)
  | advanced hregistering hstep =>
      exact hsound.update (by simp [hregistering]) (fun _ hsome => Or.inl hsome) (by simp)
  | settled hanswered => exact hsound
  | handled hwaiting hother hhandle =>
      refine hsound.update (by simp [hwaiting]) ?_ ?_
      · intro id hsome
        exact (Service.handle_newTask hhandle hsome).imp_right fun hid => ⟨hid, _, rfl⟩
      · intro response hresponse
        have hstatus := service.handle_ne_internal (hready hwaiting) (arrivals i).request
        rw [hhandle] at hstatus
        cases hresponse
        exact hstatus

theorem Traffic.run_sound (hfresh : Function.Injective fun i => (arrivals i).agentId)
    (htasks : Function.Injective fun i => (arrivals i).taskId) (moves : List (Traffic.Move ι)) :
    (Traffic.run service arrivals moves).Sound arrivals := by
  induction moves using List.reverseRecOn with
  | nil =>
      refine ⟨fun id hsome => absurd rfl hsome, ?_⟩
      intro i response hanswered
      cases hanswered
  | append_singleton moves move ih =>
      rw [run_snoc]
      cases move with
      | sweep now => exact ⟨ih.tasks, ih.answers⟩
      | serve i now =>
          exact (Traffic.served _ i now).sound
            (fun hwaiting => readyFor hfresh htasks moves ih hwaiting now) ih

/-- A registration that is gone on with again and again, with nothing in between. -/
theorem Traffic.foldl_registering (i : ι) (now : ClockTime) (steps : Nat) (state : State)
    (progress : ι → Progress) (stage : RegistrationStage) :
    (List.replicate steps (Traffic.Move.serve i now)).foldl (Traffic.step service arrivals)
        ⟨state, Function.update progress i (.registering stage)⟩ =
      let (after, agents) := runRegistration AgentStore.repository (arrivals i).call.admission
        (arrivals i).agentId now steps stage state.agents
      ⟨{ state with agents }, Function.update progress i (.registering after)⟩ := by
  induction steps generalizing state stage with
  | zero => rfl
  | succ steps ih =>
      rw [List.replicate_succ, List.foldl_cons]
      simp only [step, serve, Function.update_self, Function.update_idem, runRegistration]
      exact ih _ _

theorem Service.handle_of_registration {request : Request} {body : RegistrationRequest}
    (hregistration : registrationOf? request = some body) (occasion : Occasion) {state : State}
    {result : Except RegistryError AgentRecord} {agents : AgentStore}
    (hregister : register AgentStore.repository service.tokens body occasion.agentId occasion.now
      state.agents = (result, agents)) :
    service.handle occasion request state = (registrationAnswer result, { state with agents }) := by
  rw [registrationOf?] at hregistration
  split at hregistration
  · next hgets =>
      obtain ⟨hroute, hmethod⟩ := hgets
      have hpassage := service.passage_of_unguarded hroute rfl occasion state
      rw [Route.handler?, if_pos hmethod] at hpassage
      have hserved : service.registerAgent occasion request state =
          (registrationAnswer result, { state with agents }) := by
        cases hbody : readBody RegistrationRequest.shape.codec request with
        | error error =>
            rw [hbody] at hregistration
            cases hregistration
        | ok read =>
            rw [hbody] at hregistration
            cases hregistration
            rw [service.registerAgent_eq hbody, hregister]
      simp only [handle_eq, hpassage, Passage.to, Passage.serve, Handler.run, hserved, hmethod,
        String.reduceEq, ↓reduceIte]
  · cases hregistration

/-- A registration that nothing comes between is handled like any other request. So nothing is lost
by taking registrations apart. -/
theorem Traffic.registration_at_once {traffic : Traffic ι} {i : ι}
    (hwaiting : traffic.progress i = .waiting)
    (hregistration : (registrationOf? (arrivals i).request).isSome = true) (now : ClockTime)
    (hready : traffic.state.ReadyFor ((arrivals i).occasion now)) :
    ∃ result, (List.replicate (mostCalls + 1) (Traffic.Move.serve i now)).foldl
        (Traffic.step service arrivals) traffic =
      ⟨(service.handle ((arrivals i).occasion now) (arrivals i).request traffic.state).2,
        Function.update traffic.progress i (.registering (.over result))⟩ ∧
      (service.handle ((arrivals i).occasion now) (arrivals i).request traffic.state).1 =
        registrationAnswer result := by
  obtain ⟨body, hbody⟩ := Option.isSome_iff_exists.1 hregistration
  have hcall : (arrivals i).call = ⟨body, (arrivals i).agentId⟩ := by
    rw [Arrival.call, hbody, Option.getD_some]
  have hrun := runRegistration_firstStage service.tokens (arrivals i).call now hready.agents
    fun _ => hready.agentId
  rcases hregister : register AgentStore.repository service.tokens body (arrivals i).agentId now
    traffic.state.agents with ⟨result, agents⟩
  have hhandle := service.handle_of_registration hbody ((arrivals i).occasion now) hregister
  rw [hcall] at hrun
  dsimp only at hrun
  rw [hregister] at hrun
  rw [List.replicate_succ, List.foldl_cons, hhandle]
  simp only [step, serve, hwaiting, hregistration, ↓reduceIte]
  rw [foldl_registering, hcall]
  dsimp only
  rw [hrun]
  exact ⟨result, rfl, rfl⟩

/-- What can be done next in a state, for ids that are still free: nothing ends with a refusal of a
store that nobody is ready for. -/
structure State.Unfailing (service : Service) (state : State) (agentId taskId : String) : Prop where
  register : ∀ request now refusal, (register AgentStore.repository service.tokens request agentId
    now state.agents).1 ≠ .error (.store refusal)
  create : ∀ request now,
    TaskError.Foreseen (createTask TaskStore.repository request taskId now state.tasks).1
  list : ∀ filter, TaskError.Foreseen (listTasks TaskStore.repository filter state.tasks).1
  get : ∀ id, TaskError.Foreseen (getTask TaskStore.repository id state.tasks).1
  update : ∀ id request,
    TaskError.Foreseen (updateTask TaskStore.repository id request state.tasks).1
  claim : ∀ claimant, TaskError.Foreseen (claimTask TaskStore.repository claimant state.tasks).1
  response : ∀ now request, (service.handle ⟨now, agentId, taskId⟩ request state).1.status ≠
    ErrorKind.internal.status

/-- What holds at every moment of the traffic. -/
structure Traffic.Unfailing (service : Service) (arrivals : ι → Arrival) (traffic : Traffic ι) :
    Prop where
  /-- No registration has ended with a refusal of the store. -/
  registrations : ∀ i refusal,
    traffic.progress i ≠ .registering (.over (.error (.store refusal)))
  /-- No response says that the control plane is to blame. -/
  responses : ∀ i response, (traffic.progress i).response? = some response →
    response.status ≠ ErrorKind.internal.status
  /-- Nothing that a request still has before it would lead to one. -/
  operations : ∀ i, traffic.progress i = .waiting →
    traffic.state.Unfailing service (arrivals i).agentId (arrivals i).taskId

/-- Over its own stores the control plane never answers with an internal error, however requests
arrive and whatever comes between the calls of registrations. -/
theorem traffic_never_fails_internally (service : Service) {arrivals : ι → Arrival}
    (hfresh : Function.Injective fun i => (arrivals i).agentId)
    (htasks : Function.Injective fun i => (arrivals i).taskId) (moves : List (Traffic.Move ι)) :
    (Traffic.run service arrivals moves).Unfailing service arrivals := by
  have hsound : (Traffic.run service arrivals moves).Sound arrivals :=
    Traffic.run_sound hfresh htasks moves
  have hrace : ((Traffic.run service arrivals moves).race service arrivals).Invariant
      fun i => (arrivals i).call := Traffic.race_invariant hfresh moves
  have hregistrations : ∀ i refusal, (Traffic.run service arrivals moves).progress i ≠
      .registering (.over (.error (.store refusal))) := by
    intro i refusal hover
    have hknows := hrace.knows i
    simp only [Traffic.race, hover, Progress.stage] at hknows
    exact hknows refusal rfl
  refine ⟨hregistrations, ?responses, ?operations⟩
  case responses =>
    intro i response hresponse
    cases hprogress : (Traffic.run service arrivals moves).progress i with
    | waiting =>
        rw [hprogress] at hresponse
        cases hresponse
    | answered given =>
        rw [hprogress] at hresponse
        cases hresponse
        exact hsound.answers i _ hprogress
    | registering stage =>
        rw [hprogress] at hresponse
        cases stage with
        | «over» result =>
            cases hresponse
            apply registrationAnswer_ne_internal
            rintro refusal rfl
            exact hregistrations i refusal hprogress
        | checkKey | checkFingerprint | create | findWinner | update => cases hresponse
  case operations =>
    intro i hwaiting
    have hready := fun now => Traffic.readyFor hfresh htasks moves hsound hwaiting now
    have hnow := hready .epoch
    exact
      { register := fun request now refusal =>
          register_ne_store hnow.agents hnow.agentId service.tokens request now refusal
        create := fun request now => createTask_foreseen hnow.taskId request now
        list := listTasks_foreseen
        get := getTask_foreseen
        update := updateTask_foreseen
        claim := claimTask_foreseen
        response := fun now request => service.handle_ne_internal (hready now) request }

end

def postJson (target content : String) : Request :=
  ⟨"POST", target, [("content-type", Text.toUtf8 "application/json")], Text.toUtf8 content⟩

/-- A task is created while a registration is under way. -/
theorem traffic_never_fails_internally_amid_registration :
    let service : Service := ⟨BootstrapTokens.ofTokens [⟨"tok", "secret"⟩], 300, true⟩
    let registration := "\x7b\"fingerprint\":\"host-1\",\"token_id\":\"tok\"," ++
      "\"token_key\":\"secret\",\"public_key\":\"MBowDQYJKoZIhvcNAQEBBQADCQAwBgIBBQIBAw==\"," ++
      "\"public_key_type\":\"rsa\"\x7d"
    let arrivals : Bool → Arrival := fun i =>
      if i then ⟨postJson "/v1/agents/register" registration, "agent-1", "t1"⟩
      else ⟨postJson "/v1/tasks" "\x7b\"command\":\"true\"\x7d", "agent-2", "t2"⟩
    let moves : List (Traffic.Move Bool) := [.serve true .epoch, .serve false .epoch]
    (Function.Injective fun i => (arrivals i).agentId) ∧
      (Function.Injective fun i => (arrivals i).taskId) ∧
      (Traffic.run service arrivals moves).Unfailing service arrivals ∧
      (((Traffic.run service arrivals moves).progress false).response?.map Response.status) =
        some 201 := by
  intro service registration arrivals moves
  have hfresh : Function.Injective fun i => (arrivals i).agentId := by
    intro i j hsame
    cases i <;> cases j <;> simp_all [arrivals]
  have htasks : Function.Injective fun i => (arrivals i).taskId := by
    intro i j hsame
    cases i <;> cases j <;> simp_all [arrivals]
  exact ⟨hfresh, htasks, traffic_never_fails_internally service hfresh htasks moves,
    by decide +kernel⟩

end Muster.ControlPlane
