import Mathlib.Data.List.Induction
import Muster.Proofs.Dispatch
import Muster.Proofs.ReplayGate
import Muster.Proofs.TaskLifecycle
import Muster.Proofs.TaskReading
/-!
Whole runs of the control plane, from the state without agents and tasks on. What its gate lets in is
what the gate of the same signed requests lets in, and what becomes of its tasks is what some calls to
the queue make of them, so that both are known from the parts.
-/
namespace Muster.ControlPlane

open Auth Http Json Store Time

/-- What happens at the control plane: a request comes in, or expired nonces are swept out. -/
inductive ServerEvent
  | request (occasion : Occasion) (request : Request)
  | sweep (now : Instant)

/-- The second in which something happens. -/
def ServerEvent.clock : ServerEvent → Int
  | .request occasion _ => occasion.now.seconds
  | .sweep now => now.seconds

def ClockNeverBack (events : List ServerEvent) : Prop :=
  (events.map ServerEvent.clock).Pairwise (· ≤ ·)

instance (events : List ServerEvent) : Decidable (ClockNeverBack events) :=
  inferInstanceAs (Decidable (List.Pairwise _ _))

def Service.step (service : Service) (state : State) : ServerEvent → State
  | .request occasion request => (service.handle occasion request state).2
  | .sweep now => { state with nonces := state.nonces.evictExpired now.seconds }

def Service.after (service : Service) (events : List ServerEvent) : State :=
  events.foldl service.step State.empty

theorem Service.after_snoc (service : Service) (events : List ServerEvent) (event : ServerEvent) :
    service.after (events ++ [event]) = service.step (service.after events) event := by
  simp only [after, List.foldl_append, List.foldl_cons, List.foldl_nil]

section Gate

variable (service : Service)

/-- The signed request that a request brings to the gate, if its route has one. -/
def Service.signed? (request : Request) : Option SignedHeaders :=
  (Route.ofTarget? (Target.ofText request.target)).bind fun route =>
    if service.guards route then (SignedHeaders.ofHeaders request.headers).toOption else none

/-- What the gate sees of an event. -/
def Service.gateEvents (state : State) : ServerEvent → List GateEvent
  | .request occasion request =>
      ((service.signed? request).map fun signed =>
        GateEvent.request signed occasion.now.seconds).toList ++
          [.agentsChange (service.handle occasion request state).2.agents]
  | .sweep now => [.sweep now.seconds]

/-- What the gate sees of a run that goes on from a state. -/
def Service.gateLog : State → List ServerEvent → List GateEvent
  | _, [] => []
  | state, event :: rest =>
      service.gateEvents state event ++ gateLog (service.step state event) rest

theorem Service.gateLog_append (state : State) (events : List ServerEvent) (event : ServerEvent) :
    service.gateLog state (events ++ [event]) =
      service.gateLog state events ++ service.gateEvents (events.foldl service.step state) event := by
  induction events generalizing state with
  | nil => simp only [gateLog, List.nil_append, List.append_nil, List.foldl_nil]
  | cons first rest ih =>
      simp only [List.cons_append, gateLog, ih, List.append_assoc, List.foldl_cons]

variable {service} {occasion : Occasion} {request : Request} {state : State}

/-- A request that gets to a handler has got there on its route, by its method. -/
theorem Service.handler_of_passage {handler : Handler}
    (hpassage : (service.passage occasion request state).1 = .handled handler) :
    ∃ route signer, Route.ofTarget? (Target.ofText request.target) = some route ∧
      Passage.to (route.handler? request.method signer) = .handled handler := by
  simp only [passage] at hpassage
  cases hroute : Route.ofTarget? (Target.ofText request.target) with
  | none =>
      rw [hroute] at hpassage
      cases hpassage
  | some route =>
      simp only [hroute, passageOn] at hpassage
      split at hpassage
      · split at hpassage
        · cases hpassage
        · exact ⟨route, _, rfl, hpassage⟩
      · exact ⟨route, _, rfl, hpassage⟩

theorem Service.passage_of_unguarded {route : Route}
    (hroute : Route.ofTarget? (Target.ofText request.target) = some route)
    (hguards : service.guards route = false) (occasion : Occasion) (state : State) :
    service.passage occasion request state =
      (.to (route.handler? request.method ""), state.nonces) := by
  simp only [passage, hroute, passageOn, hguards, Bool.false_eq_true, ↓reduceIte]

/-- Only the route for claims leads to a claim, and that for the agent that the gate named. -/
theorem Route.eq_claim {route : Route} {method signer agentId : String}
    (hclaim : Passage.to (route.handler? method signer) = .handled (.claim agentId)) :
    route = .claim ∧ agentId = signer := by
  cases route with
  | register =>
      simp only [handler?] at hclaim
      split at hclaim <;> cases hclaim
  | tasks =>
      simp only [handler?] at hclaim
      cases haction : tasksAction? method with
      | none | some _ =>
          rw [haction] at hclaim
          cases hclaim
  | task segment =>
      simp only [handler?] at hclaim
      cases haction : taskAction? method segment with
      | none | some _ =>
          rw [haction] at hclaim
          cases hclaim
  | claim =>
      simp only [handler?] at hclaim
      split at hclaim
      · cases hclaim
        exact ⟨rfl, rfl⟩
      · cases hclaim

/-- A request that comes signed to the gate has its headers in order. -/
theorem Service.signed?_eq_some {signed : SignedHeaders}
    (hsigned : service.signed? request = some signed) :
    ∃ route, Route.ofTarget? (Target.ofText request.target) = some route ∧
      service.guards route = true ∧ SignedHeaders.ofHeaders request.headers = .ok signed := by
  simp only [signed?] at hsigned
  obtain ⟨route, hroute, hsigned⟩ := Option.bind_eq_some_iff.1 hsigned
  split at hsigned
  · next hguards =>
      cases hheaders : SignedHeaders.ofHeaders request.headers with
      | error error =>
          rw [hheaders] at hsigned
          cases hsigned
      | ok read =>
          rw [hheaders] at hsigned
          cases hsigned
          exact ⟨route, hroute, hguards, rfl⟩
  · cases hsigned

/-- A request that brings nothing to the gate goes past it, or is turned away without a signature to
check; it does not get to claim a task. -/
theorem Service.passage_of_unsigned (hunsigned : service.signed? request = none)
    (occasion : Occasion) (state : State) :
    (service.passage occasion request state).2 = state.nonces ∧
      ∀ agentId, (service.passage occasion request state).1 ≠ .handled (.claim agentId) := by
  simp only [passage]
  cases hroute : Route.ofTarget? (Target.ofText request.target) with
  | none => exact ⟨rfl, fun agentId => Passage.noConfusion⟩
  | some route =>
      simp only [signed?, hroute, Option.bind_some] at hunsigned
      simp only [passageOn]
      cases hguards : service.guards route with
      | true =>
          rw [hguards, if_pos rfl] at hunsigned
          simp only [gate]
          cases hheaders : SignedHeaders.ofHeaders request.headers with
          | error error => exact ⟨rfl, fun agentId => Passage.noConfusion⟩
          | ok signed =>
              rw [hheaders] at hunsigned
              cases hunsigned
      | false =>
          refine ⟨rfl, ?_⟩
          intro agentId hclaim
          obtain ⟨rfl, -⟩ := Route.eq_claim hclaim
          cases hguards

/-- A signed request passes as the gate decides, and claims for the agent that signed. -/
theorem Service.passage_of_signed {signed : SignedHeaders}
    (hsigned : service.signed? request = some signed) (occasion : Occasion) (state : State) :
    (∃ nonces, authenticateAt AgentStore.repository service.window signed occasion.now.seconds
        state.agents state.nonces = (.ok (), state.agents, nonces) ∧
      (service.passage occasion request state).2 = nonces ∧
      ∀ agentId, (service.passage occasion request state).1 = .handled (.claim agentId) →
        agentId = signed.agentId) ∨
    ∃ error, authenticateAt AgentStore.repository service.window signed occasion.now.seconds
        state.agents state.nonces = (.error error, state.agents, state.nonces) ∧
      service.passage occasion request state = (.denied error, state.nonces) := by
  obtain ⟨route, hroute, hguards, hheaders⟩ := signed?_eq_some hsigned
  simp only [passage, hroute, passageOn, hguards, ↓reduceIte, gate, hheaders]
  rcases authenticateAt_cases state.agents service.window signed occasion.now.seconds
    state.nonces with ⟨-, haccepted⟩ | ⟨-, error, hrefused⟩
  · refine Or.inl ⟨_, haccepted, ?_, ?_⟩
    · rw [haccepted]
      rfl
    · intro agentId hclaim
      rw [haccepted] at hclaim
      exact (Route.eq_claim hclaim).2
  · refine Or.inr ⟨error, hrefused, ?_⟩
    rw [hrefused]
    rfl

/-- The gate behind the log of a run. -/
def Service.gateAfter (service : Service) (events : List ServerEvent) : Gate :=
  Gate.run service.window AgentStore.empty (service.gateLog State.empty events)

theorem Service.gateAfter_snoc (service : Service) (events : List ServerEvent)
    (event : ServerEvent) : service.gateAfter (events ++ [event]) =
      (service.gateEvents (service.after events) event).foldl (Gate.step service.window)
        (service.gateAfter events) := by
  simp only [gateAfter, Gate.run, gateLog_append, List.foldl_append, after]

/-- The gate of the control plane and the gate of its log are one. -/
theorem Service.gate_follows (service : Service) (events : List ServerEvent) :
    (service.gateAfter events).agents = (service.after events).agents ∧
      (service.gateAfter events).nonces = (service.after events).nonces := by
  induction events using List.reverseRecOn with
  | nil => exact ⟨rfl, rfl⟩
  | append_singleton events event ih =>
      obtain ⟨hagents, hnonces⟩ := ih
      rw [gateAfter_snoc, after_snoc]
      cases event with
      | sweep now =>
          simp only [gateEvents, step, List.foldl_cons, List.foldl_nil, Gate.step, hnonces]
          exact ⟨hagents, trivial⟩
      | request occasion request =>
          simp only [gateEvents, step, List.foldl_append, List.foldl_cons, List.foldl_nil,
            handle_nonces]
          cases hsigned : service.signed? request with
          | none =>
              obtain ⟨hpassage, -⟩ := passage_of_unsigned hsigned occasion (service.after events)
              simp only [Option.map_none, Option.toList_none, List.foldl_nil, Gate.step, hnonces,
                hpassage, and_self]
          | some signed =>
              simp only [Option.map_some, Option.toList_some, List.foldl_cons, List.foldl_nil,
                Gate.step, hnonces, hagents]
              rcases passage_of_signed hsigned occasion (service.after events) with
                ⟨nonces, hresult, hpassage, -⟩ | ⟨error, hresult, hpassage⟩
              · simp only [hresult, hpassage, and_self]
              · simp only [hresult, hpassage, and_self]

/-- The signed requests that a run lets in, the last one first. -/
def Service.accepted (service : Service) (events : List ServerEvent) : List SignedHeaders :=
  (service.gateAfter events).accepted

theorem Service.accepted_of_ok {events : List ServerEvent} {signed : SignedHeaders}
    {nonces : NonceCache} (hsigned : service.signed? request = some signed)
    (hresult : authenticateAt AgentStore.repository service.window signed occasion.now.seconds
      (service.after events).agents (service.after events).nonces =
        (.ok (), (service.after events).agents, nonces)) :
    service.accepted (events ++ [.request occasion request]) = signed :: service.accepted events := by
  obtain ⟨hagents, hnonces⟩ := service.gate_follows events
  simp only [accepted, gateAfter_snoc, gateEvents, hsigned, Option.map_some, Option.toList_some,
    List.cons_append, List.nil_append, List.foldl_cons, List.foldl_nil, Gate.step, hnonces, hagents,
    hresult]

theorem Gate.accepted_suffix_step (window : Int) (gate : Gate) (event : GateEvent) :
    gate.accepted <:+ (gate.step window event).accepted := by
  cases event with
  | sweep now => exact List.suffix_refl _
  | agentsChange agents => exact List.suffix_refl _
  | request signed now =>
      rcases gate.accepted_step window signed now with ⟨-, hstep⟩ | hstep
      · rw [hstep]
        exact List.suffix_cons signed gate.accepted
      · exact hstep.symm ▸ List.suffix_refl gate.accepted

theorem Gate.accepted_suffix (window : Int) (gate : Gate) (events : List GateEvent) :
    gate.accepted <:+ (events.foldl (Gate.step window) gate).accepted := by
  induction events generalizing gate with
  | nil => exact List.suffix_refl _
  | cons event events ih =>
      exact (Gate.accepted_suffix_step window gate event).trans (ih (gate.step window event))

theorem Service.accepted_suffix (service : Service) (before after : List ServerEvent) :
    service.accepted before <:+ service.accepted (before ++ after) := by
  induction after using List.reverseRecOn with
  | nil =>
      have hsame : service.accepted (before ++ []) = service.accepted before := by
        rw [List.append_nil]
      exact hsame.symm ▸ List.suffix_refl (service.accepted before)
  | append_singleton after event ih =>
      rw [← List.append_assoc]
      refine ih.trans ?_
      simp only [accepted, gateAfter_snoc]
      exact Gate.accepted_suffix _ _ _

theorem clock_inRange (event : ServerEvent) : InRange64 event.clock := by
  have hinstant : ∀ now : Instant, InRange64 now.seconds := by
    intro now
    obtain ⟨hlow, hhigh, -⟩ := now.representable
    simp only [firstSecond] at hlow
    simp only [lastSecond] at hhigh
    simp only [InRange64, leastSecond64, greatestSecond64]
    omega
  cases event with
  | request occasion request => exact hinstant occasion.now
  | sweep now => exact hinstant now

theorem Service.clockValues_gateLog (service : Service) (state : State)
    (events : List ServerEvent) :
    (clockValues (service.gateLog state events)).Sublist (events.map ServerEvent.clock) := by
  induction events generalizing state with
  | nil => exact List.Sublist.slnil
  | cons event rest ih =>
      have hfirst : (clockValues (service.gateEvents state event)).Sublist [event.clock] := by
        cases event with
        | sweep now => exact List.Sublist.refl _
        | request occasion request =>
            simp only [gateEvents]
            cases service.signed? request with
            | none => exact List.nil_sublist _
            | some signed => exact List.Sublist.refl _
      rw [gateLog, clockValues, List.filterMap_append, List.map_cons]
      exact hfirst.append (ih _)

theorem Service.steadyClock_gateLog (service : Service) {events : List ServerEvent}
    (hclock : ClockNeverBack events) : SteadyClock (service.gateLog State.empty events) := by
  have hsublist := service.clockValues_gateLog State.empty events
  refine ⟨hclock.sublist hsublist, ?_⟩
  intro now hnow
  obtain ⟨event, -, rfl⟩ := List.mem_map.1 (hsublist.subset hnow)
  exact clock_inRange event

/-- No signed request is let in twice over a whole run, not even with another signature. -/
theorem Service.accepted_identities_nodup {seconds : Nat}
    (hwindow : service.window = windowOf seconds) (hseconds : (seconds : Int) < greatestSecond64)
    {events : List ServerEvent} (hclock : ClockNeverBack events) :
    ((service.accepted events).map SignedHeaders.identity).Nodup := by
  have hpos : (0 : Int) ≤ seconds := Int.natCast_nonneg seconds
  have hnodup := Gate.run_accepted_nodup hpos hseconds AgentStore.empty
    (service.steadyClock_gateLog hclock)
  rw [← windowOf_eq hseconds, ← hwindow] at hnodup
  exact hnodup

/-- The gate lets the request in at this moment, with these signature fields. -/
structure Service.LetsIn (service : Service) (before : List ServerEvent) (occasion : Occasion)
    (request : Request) (signed : SignedHeaders) : Prop where
  headers : service.signed? request = some signed
  answer : (authenticateAt AgentStore.repository service.window signed occasion.now.seconds
    (service.after before).agents (service.after before).nonces).1 = .ok ()

variable {before : List ServerEvent} {signed : SignedHeaders}

/-- What is let in is genuine, of an age within the window, and changes no agent. -/
theorem Service.LetsIn.admitted (hin : service.LetsIn before occasion request signed) :
    signed.Genuine (service.after before).agents ∧
      distance64 occasion.now.seconds signed.timestamp ≤ service.window ∧
      ∃ nonces, authenticateAt AgentStore.repository service.window signed occasion.now.seconds
        (service.after before).agents (service.after before).nonces =
          (.ok (), (service.after before).agents, nonces) := by
  rcases authenticateAt_cases (service.after before).agents service.window signed
    occasion.now.seconds (service.after before).nonces with
    ⟨⟨hgenuine, hage, -⟩, haccepted⟩ | ⟨-, error, hrefused⟩
  · exact ⟨hgenuine, hage, _, haccepted⟩
  · have hanswer := hin.answer
    rw [hrefused] at hanswer
    cases hanswer

theorem Service.LetsIn.accepted (hin : service.LetsIn before occasion request signed) :
    service.accepted (before ++ [.request occasion request]) =
      signed :: service.accepted before := by
  obtain ⟨-, -, nonces, hresult⟩ := hin.admitted
  exact accepted_of_ok hin.headers hresult

/-- What has been let in is not let in again, with another signature or on another route either. -/
theorem Service.LetsIn.not_again {seconds : Nat} (hwindow : service.window = windowOf seconds)
    (hseconds : (seconds : Int) < greatestSecond64) {later : List ServerEvent}
    {occasion' : Occasion} {request' : Request} {signed' : SignedHeaders}
    (hclock : ClockNeverBack (later ++ [.request occasion' request']))
    (hin : service.LetsIn before occasion request signed)
    (hlater : before ++ [.request occasion request] <+: later)
    (hin' : service.LetsIn later occasion' request' signed') :
    signed.identity ≠ signed'.identity := by
  intro hsame
  have hnodup := service.accepted_identities_nodup hwindow hseconds hclock
  rw [hin'.accepted, List.map_cons, List.nodup_cons] at hnodup
  apply hnodup.1
  rw [← hsame]
  apply List.mem_map_of_mem
  obtain ⟨between, rfl⟩ := hlater
  apply (service.accepted_suffix _ between).subset
  rw [hin.accepted]
  exact List.mem_cons_self

end Gate

section Tasks

variable {service : Service} {occasion : Occasion} {request : Request}

/-- The call to the queue that a handler makes for a request, if it makes one that can change tasks. -/
inductive Handler.Calls (occasion : Occasion) (request : Request) : Handler → QueueCall → Prop
  | create (body : CreateTaskRequest)
      (hbody : readBody CreateTaskRequest.shape.codec request = .ok body) :
      Calls occasion request (.tasks .create) (.create body occasion.taskId occasion.now)
  | update (segment id : String) (hid : percentText? segment = some id) (body : UpdateTaskRequest)
      (hbody : readBody UpdateTaskRequest.shape.codec request = .ok body) :
      Calls occasion request (.tasks (.update segment)) (.update id body)
  | claim (agentId : String) : Calls occasion request (.claim agentId) (.claim agentId)

/-- What a handler does to tasks is what its call does to them. -/
theorem Handler.run_tasks (service : Service) (occasion : Occasion) (request : Request)
    (state : State) (handler : Handler) :
    (handler.run service occasion request state).2.tasks = state.tasks ∨
      ∃ call, Calls occasion request handler call ∧
        (handler.run service occasion request state).2.tasks = (call.perform state.tasks).2 := by
  cases handler with
  | register => exact Or.inl (service.registerAgent_frame occasion request state).1
  | claim agentId => exact Or.inr ⟨_, .claim agentId, rfl⟩
  | tasks action =>
      cases action with
      | list => exact Or.inl (actOnTasks_list occasion request state.tasks)
      | get segment => exact Or.inl (actOnTasks_get occasion request segment state.tasks)
      | create =>
          simp only [run, actOnTasks]
          cases hbody : readBody CreateTaskRequest.shape.codec request with
          | error error => exact Or.inl rfl
          | ok body => exact Or.inr ⟨_, .create body hbody, rfl⟩
      | update segment =>
          simp only [run, actOnTasks]
          cases hid : percentText? segment with
          | none => exact Or.inl rfl
          | some id =>
              cases hbody : readBody UpdateTaskRequest.shape.codec request with
              | error error => exact Or.inl rfl
              | ok body => exact Or.inr ⟨_, .update segment id hid body hbody, rfl⟩

/-- What a request does to tasks is what the call of its handler does to them. -/
theorem Service.handle_tasks (service : Service) (occasion : Occasion) (request : Request)
    (state : State) :
    (service.handle occasion request state).2.tasks = state.tasks ∨
      ∃ handler call, (service.passage occasion request state).1 = .handled handler ∧
        Handler.Calls occasion request handler call ∧
        (service.handle occasion request state).2.tasks = (call.perform state.tasks).2 := by
  rw [handle_state]
  rcases hpassage : service.passage occasion request state with ⟨passage, nonces⟩
  cases passage with
  | noRoute | denied | noMethod => exact Or.inl rfl
  | handled handler =>
      rcases handler.run_tasks service occasion request { state with nonces } with
        hsame | ⟨call, hcall, hnext⟩
      · exact Or.inl hsame
      · exact Or.inr ⟨handler, call, rfl, hcall, hnext⟩

/-- What holds of every task of a run: it lies under its id, it is sound, its numbers fit, and it was
made at a time that a clock shows. -/
structure Task.Kept (id : String) (task : Task) : Prop where
  id : task.id = id
  sound : Task.Sound task
  fits : Task.Fits task
  regular : task.createdAt.IsRegular

theorem yields_of_readBody {α : Type} {codec : Codec α} {a : α}
    (hbody : readBody codec request = .ok a) : codec.Yields a := by
  simp only [readBody] at hbody
  split at hbody
  · cases hbody
  · split at hbody
    · next hread =>
        cases hbody
        exact Codec.yields_of_readOctets hread
    · cases hbody

/-- A task that a call makes keeps to that. -/
theorem Handler.Calls.kept_new {handler : Handler} {call : QueueCall}
    (hcalls : Calls occasion request handler call) {id : String} {body : CreateTaskRequest}
    {now : Instant} (hcall : call = .create body id now) (hvalid : validateCreate body = .ok ()) :
    Task.Kept id (newTask body id now) := by
  cases hcalls with
  | create body hbody =>
      cases hcall
      have hpriority := CreateTaskRequest.priority_holds (yields_of_readBody hbody)
      refine ⟨rfl, newTask_sound hvalid _ _, ⟨hpriority, ?_⟩, occasion.now.regular⟩
      intro code hcode
      cases hcode
  | update segment id hid body hbody => cases hcall
  | claim agentId => cases hcall

/-- A task that a call changes keeps to that. -/
theorem Handler.Calls.kept_change {handler : Handler} {call : QueueCall}
    (hcalls : Calls occasion request handler call) {result : Except TaskError (Option Task)}
    {id : String} {task later : Task} (hchange : TaskChange call result id task later)
    (hkept : Task.Kept id task) : Task.Kept id later := by
  have hsound := hchange.sound hkept.sound
  cases hchange with
  | unchanged => exact hkept
  | claimed agentId hcall hpending hresult =>
      exact ⟨hkept.id, hsound, ⟨hkept.fits.priority, hkept.fits.exitCode⟩, hkept.regular⟩
  | reported body update hcall hupdate hmove hresult =>
      refine ⟨hkept.id, hsound, ⟨hkept.fits.priority, ?_⟩, hkept.regular⟩
      intro code hcode
      cases hcalls with
      | create body hbody => cases hcall
      | claim agentId => cases hcall
      | update segment id hid body hbody =>
          cases hcall
          obtain ⟨-, hresults⟩ := (validateUpdate_eq_ok_iff body update).1 hupdate
          have hexit : update.exitCode = body.exitCode := congrArg (fun parts => parts.2.2) hresults
          exact UpdateTaskRequest.exitCode_holds (yields_of_readBody hbody) (hexit.symm.trans hcode)

/-- What an event does to tasks: nothing, or what the call of a handler does. -/
theorem Service.step_tasks (service : Service) (state : State) (event : ServerEvent) :
    (service.step state event).tasks = state.tasks ∨
      ∃ occasion request handler call, event = .request occasion request ∧
        (service.passage occasion request state).1 = .handled handler ∧
        Handler.Calls occasion request handler call ∧
        (service.step state event).tasks = (call.perform state.tasks).2 := by
  cases event with
  | sweep now => exact Or.inl rfl
  | request occasion request =>
      rcases service.handle_tasks occasion request state with hsame |
        ⟨handler, call, hpassage, hcalls, hnext⟩
      · exact Or.inl hsame
      · exact Or.inr ⟨occasion, request, handler, call, rfl, hpassage, hcalls, hnext⟩

theorem Service.after_kept (service : Service) (events : List ServerEvent) {id : String}
    {task : Task} (htask : (service.after events).tasks.findById? id = some task) :
    Task.Kept id task := by
  induction events using List.reverseRecOn generalizing task with
  | nil => cases htask
  | append_singleton events event ih =>
      rw [after_snoc] at htask
      rcases service.step_tasks (service.after events) event with hsame |
        ⟨occasion, request, handler, call, -, -, hcalls, hnext⟩
      · rw [hsame] at htask
        exact ih htask
      · rw [hnext] at htask
        have heffect := call.effect_perform (service.after events).tasks
        cases hbefore : (service.after events).tasks.findById? id with
        | none =>
            obtain ⟨body, now, hcall, hvalid, rfl⟩ := heffect.new hbefore htask
            exact hcalls.kept_new hcall hvalid
        | some earlier =>
            obtain ⟨later, hlater, hchange⟩ := heffect.change hbefore
            cases Option.some.inj (hlater.symm.trans htask)
            exact hcalls.kept_change hchange (ih hbefore)

/-- A task is there at all later moments, and has only moved forward. -/
theorem Service.after_becomes (service : Service) (before after : List ServerEvent) {id : String}
    {task : Task} (htask : (service.after before).tasks.findById? id = some task) :
    ∃ later, (service.after (before ++ after)).tasks.findById? id = some later ∧
      Task.Becomes task later := by
  induction after using List.reverseRecOn with
  | nil =>
      rw [List.append_nil]
      exact ⟨task, htask, .refl task⟩
  | append_singleton after event ih =>
      obtain ⟨middle, hmiddle, hfirst⟩ := ih
      rw [← List.append_assoc, after_snoc]
      rcases service.step_tasks (service.after (before ++ after)) event with hsame |
        ⟨occasion, request, handler, call, -, -, -, hnext⟩
      · rw [hsame]
        exact ⟨middle, hmiddle, hfirst⟩
      · rw [hnext]
        obtain ⟨later, hlater, hchange⟩ := (call.effect_perform _).change hmiddle
        have hsound := (service.after_kept _ hmiddle).sound
        exact ⟨later, hlater, hfirst.trans (hchange.becomes hsound)⟩

end Tasks

end Muster.ControlPlane
