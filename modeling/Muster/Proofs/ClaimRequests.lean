import Muster.Agent.TaskCall
import Muster.Proofs.HeaderReading
import Muster.Proofs.ServerRun
/-!
What a claim does in a run of the control plane. A task leaves the pending ones once, a request moves
one task at most, however often it comes, and an agent whose claim is answered with a task has that
task from then on.
-/
namespace Muster.ControlPlane

open Auth Http Json Store Time

/-- The event takes the task with this id out of the pending ones. -/
def Service.TakesUp (service : Service) (before : List ServerEvent) (event : ServerEvent)
    (id : String) : Prop :=
  ∃ task later, (service.after before).tasks.findById? id = some task ∧ task.status = .pending ∧
    (service.after (before ++ [event])).tasks.findById? id = some later ∧ later.status ≠ .pending

/-- A request on the route for claims. -/
def IsClaim (request : Request) : Prop :=
  Route.ofTarget? (Target.ofText request.target) = some .claim

/-- Of two moments of one run, one comes first. -/
theorem prefix_trichotomy {α : Type} {events before₁ before₂ : List α} {event₁ event₂ : α}
    (hfirst : before₁ ++ [event₁] <+: events) (hsecond : before₂ ++ [event₂] <+: events) :
    before₁ ++ [event₁] <+: before₂ ∨ before₂ ++ [event₂] <+: before₁ ∨
      (before₁ = before₂ ∧ event₁ = event₂) := by
  have hshort₁ := (List.prefix_append before₁ [event₁]).trans hfirst
  have hshort₂ := (List.prefix_append before₂ [event₂]).trans hsecond
  rcases Nat.lt_trichotomy before₁.length before₂.length with hlt | hsame | hgt
  · left
    apply List.prefix_of_prefix_length_le hfirst hshort₂
    rw [List.length_append]
    exact hlt
  · right
    right
    have hequal : before₁ ++ [event₁] = before₂ ++ [event₂] := by
      apply (List.prefix_of_prefix_length_le hfirst hsecond _).eq_of_length
      · rw [List.length_append, List.length_append, hsame]
        rfl
      · rw [List.length_append, List.length_append, hsame]
        exact Nat.le_refl _
    obtain ⟨hbefore, hevent⟩ := List.append_inj' hequal rfl
    exact ⟨hbefore, (List.cons.inj hevent).1⟩
  · right
    left
    apply List.prefix_of_prefix_length_le hsecond hshort₁
    rw [List.length_append]
    exact hgt

theorem Service.passage_of_claim (service : Service) (occasion : Occasion) {request : Request}
    (state : State) (hclaim : IsClaim request) :
    service.passage occasion request state =
      match service.gate occasion request state with
      | (.error error, nonces) => (.denied error, nonces)
      | (.ok agentId, nonces) =>
          (.to (if request.method = "POST" then some (.claim agentId) else none), nonces) := by
  unfold IsClaim at hclaim
  rw [passage, hclaim]
  rfl

theorem Service.handler_of_claim {service : Service} {occasion : Occasion} {request : Request}
    {state : State} {handler : Handler} (hclaim : IsClaim request)
    (hpassage : (service.passage occasion request state).1 = .handled handler) :
    ∃ agentId, handler = .claim agentId := by
  rw [service.passage_of_claim _ _ hclaim] at hpassage
  rcases hgate : service.gate occasion request state with ⟨result, nonces⟩
  rw [hgate] at hpassage
  cases result with
  | error error => cases hpassage
  | ok agentId =>
      refine ⟨agentId, ?_⟩
      by_cases hmethod : request.method = "POST"
      · simp only [hmethod, ↓reduceIte] at hpassage
        cases hpassage
        rfl
      · simp only [hmethod, ↓reduceIte] at hpassage
        cases hpassage

/-- The handler for claims answers with the task that it has given to the agent, or without any. -/
theorem claimFor_cases (agentId : String) (state : State) :
    (∃ id number task, state.tasks.tasks.get? id = some ⟨number, task⟩ ∧ task.status = .pending ∧
      claimFor agentId state =
        (valueResponse 200 Task.shape.codec (Task.claimedFor task agentId),
          { state with tasks := state.tasks.put id ⟨number, Task.claimedFor task agentId⟩ })) ∨
    claimFor agentId state = (bareResponse 204, state) := by
  simp only [claimFor, claimTask, TaskStore.repository, storeResult]
  rcases state.tasks.claimNext_cases agentId with
    ⟨id, number, task, hentry, hpending, hclaim⟩ | hclaim
  · left
    refine ⟨id, number, task, hentry, hpending, ?_⟩
    simp only [hclaim]
    rfl
  · right
    simp only [hclaim]

section TakesUp

variable {service : Service} {before events : List ServerEvent} {event : ServerEvent} {id : String}

theorem Service.TakesUp.not_again (htakes : service.TakesUp before event id)
    {later : List ServerEvent} (hlater : before ++ [event] <+: later) {task : Task}
    (htask : (service.after later).tasks.findById? id = some task) : task.status ≠ .pending := by
  obtain ⟨-, taken, -, -, htaken, hstatus⟩ := htakes
  obtain ⟨rest, rfl⟩ := hlater
  obtain ⟨found, hfound, hbecomes⟩ := service.after_becomes _ rest htaken
  cases Option.some.inj (hfound.symm.trans htask)
  intro hpending
  rcases hbecomes.status with hsame | hforward
  · exact hstatus (hsame.trans hpending)
  · rw [hpending] at hforward
    exact absurd hforward (Nat.not_lt_zero _)

theorem Service.TakesUp.unique {before₁ before₂ : List ServerEvent} {event₁ event₂ : ServerEvent}
    (hfirst : before₁ ++ [event₁] <+: events) (hsecond : before₂ ++ [event₂] <+: events)
    (htakes₁ : service.TakesUp before₁ event₁ id) (htakes₂ : service.TakesUp before₂ event₂ id) :
    before₁ = before₂ := by
  rcases prefix_trichotomy hfirst hsecond with hearlier | hlater | ⟨hsame, -⟩
  · obtain ⟨task, -, htask, hpending, -⟩ := htakes₂
    exact absurd hpending (htakes₁.not_again hearlier htask)
  · obtain ⟨task, -, htask, hpending, -⟩ := htakes₁
    exact absurd hpending (htakes₂.not_again hlater htask)
  · exact hsame

variable {occasion : Occasion} {request : Request}

/-- A claim that takes a task up has been let in, and the task is the one in its answer. -/
theorem Service.TakesUp.claimed (hclaim : IsClaim request)
    (htakes : service.TakesUp before (.request occasion request) id) :
    ∃ agentId found, (service.passage occasion request (service.after before)).1 =
        .handled (.claim agentId) ∧ found.id = id ∧
      (claimTask TaskStore.repository agentId (service.after before).tasks).1 =
        .ok (some (Task.claimedFor found agentId)) ∧
      (service.after (before ++ [.request occasion request])).tasks.findById? id =
        some (Task.claimedFor found agentId) := by
  obtain ⟨task, later, htask, hpending, hlater, hstatus⟩ := htakes
  have hid := (service.after_kept _ htask).id
  rw [after_snoc] at hlater
  rcases service.step_tasks (service.after before) (.request occasion request) with hsame |
    ⟨_, _, handler, call, hevent, hpassage, hcalls, hnext⟩
  · rw [hsame, htask] at hlater
    cases hlater
    exact absurd hpending hstatus
  · cases hevent
    obtain ⟨agentId, rfl⟩ := handler_of_claim hclaim hpassage
    cases hcalls
    obtain ⟨found, hfound, hchange⟩ := (QueueCall.effect_perform _ (.claim agentId)).change htask
    rw [← hnext] at hfound
    rw [hfound] at hlater
    cases hlater
    cases hchange with
    | unchanged => exact absurd hpending hstatus
    | reported _ _ hcall => cases hcall
    | claimed _ hcall _ hresult =>
        cases hcall
        rw [after_snoc]
        exact ⟨agentId, task, hpassage, hid, hresult, hfound⟩

theorem Service.TakesUp.one {id₁ id₂ : String} (hclaim : IsClaim request)
    (hfirst : service.TakesUp before (.request occasion request) id₁)
    (hsecond : service.TakesUp before (.request occasion request) id₂) : id₁ = id₂ := by
  obtain ⟨agentId₁, found₁, hpassage₁, rfl, hresult₁, -⟩ := hfirst.claimed hclaim
  obtain ⟨agentId₂, found₂, hpassage₂, rfl, hresult₂, -⟩ := hsecond.claimed hclaim
  rw [hpassage₁] at hpassage₂
  cases hpassage₂
  rw [hresult₁] at hresult₂
  have hsame := Option.some.inj (Except.ok.inj hresult₂)
  have hids := congrArg (fun task : Task => task.id) hsame
  exact hids

/-- Only a `POST` on the route for claims that is let in gets to claim a task, for its signer. -/
theorem Service.claim_letsIn {agentId : String}
    (hpassage : (service.passage occasion request (service.after before)).1 =
      .handled (.claim agentId)) :
    IsClaim request ∧ request.method = "POST" ∧
      ∃ signed, service.LetsIn before occasion request signed ∧ signed.agentId = agentId := by
  have hclaim : IsClaim request := by
    obtain ⟨route, signer, hroute, hto⟩ := handler_of_passage hpassage
    obtain ⟨rfl, -⟩ := Route.eq_claim hto
    exact hroute
  have hmethod : request.method = "POST" := by
    by_contra hother
    rw [service.passage_of_claim _ _ hclaim] at hpassage
    simp only [if_neg hother] at hpassage
    split at hpassage <;> cases hpassage
  refine ⟨hclaim, hmethod, ?_⟩
  cases hsigned : service.signed? request with
  | none => exact absurd hpassage ((passage_of_unsigned hsigned occasion _).2 agentId)
  | some signed =>
      rcases passage_of_signed hsigned occasion (service.after before) with
        ⟨nonces, hresult, -, hagent⟩ | ⟨error, -, hdenied⟩
      · exact ⟨signed, ⟨hsigned, by rw [hresult]⟩, (hagent agentId hpassage).symm⟩
      · rw [hdenied] at hpassage
        cases hpassage

/-- A request to claim a task moves one task at most, however often and whenever it comes. -/
theorem claim_takes_up_one {seconds : Nat} (hwindow : service.window = windowOf seconds)
    (hseconds : (seconds : Int) < greatestSecond64) (hclock : ClockNeverBack events)
    (hclaim : IsClaim request) {before₁ before₂ : List ServerEvent}
    {occasion₁ occasion₂ : Occasion} {id₁ id₂ : String}
    (hfirst : before₁ ++ [.request occasion₁ request] <+: events)
    (hsecond : before₂ ++ [.request occasion₂ request] <+: events)
    (htakes₁ : service.TakesUp before₁ (.request occasion₁ request) id₁)
    (htakes₂ : service.TakesUp before₂ (.request occasion₂ request) id₂) :
    before₁ = before₂ ∧ id₁ = id₂ := by
  -- the later of two claims with one request would have been let in a second time
  have honce : ∀ {earlier later : List ServerEvent} {occasion occasion' : Occasion} {id id' : String},
      later ++ [.request occasion' request] <+: events →
      service.TakesUp earlier (.request occasion request) id →
      service.TakesUp later (.request occasion' request) id' →
      ¬ earlier ++ [.request occasion request] <+: later := by
    intro earlier later occasion occasion' id id' hmoment hearlier hlater hprefix
    obtain ⟨agentId, -, hpassage, -⟩ := hearlier.claimed hclaim
    obtain ⟨-, -, signed, hin, -⟩ := Service.claim_letsIn hpassage
    obtain ⟨agentId', -, hpassage', -⟩ := hlater.claimed hclaim
    obtain ⟨-, -, signed', hin', -⟩ := Service.claim_letsIn hpassage'
    cases hin.headers.symm.trans hin'.headers
    exact hin.not_again hwindow hseconds (hclock.sublist (hmoment.sublist.map ServerEvent.clock))
      hprefix hin' rfl
  rcases prefix_trichotomy hfirst hsecond with hearlier | hlater | ⟨rfl, hsame⟩
  · exact absurd hearlier (honce hsecond htakes₁ htakes₂)
  · exact absurd hlater (honce hfirst htakes₂ htakes₁)
  · cases hsame
    exact ⟨rfl, htakes₁.one hclaim htakes₂⟩

end TakesUp

end Muster.ControlPlane

namespace Muster.Agent

open Auth ControlPlane Http Store Time

variable {service : Service} {before : List ServerEvent} {occasion : Occasion}

theorem isClaim_request (signed : SignedHeaders) : IsClaim (TaskCall.claim.request signed) := by
  have hroute : Route.ofTarget? (Target.ofText "/v1/tasks/claim") = some .claim := by decide
  exact hroute

/-- An answer with a task holds that task. -/
theorem decode_of_read {call : TaskCall} {reply : Reply} {task : Task}
    (hread : call.read reply = .ok (some task)) : reply.decode Task.shape.codec = .ok task := by
  simp only [TaskCall.read] at hread
  split at hread
  · cases hread
  · cases hdecode : reply.decode Task.shape.codec with
    | error error =>
        rw [hdecode] at hread
        cases hread
    | ok found =>
        rw [hdecode] at hread
        cases hread
        rfl

theorem isSuccess_of_decode {α : Type} {codec : Json.Codec α} {reply : Reply} {a : α}
    (hdecode : reply.decode codec = .ok a) : isSuccess reply.status = true := by
  simp only [Reply.decode] at hdecode
  split at hdecode
  · next hsuccess => exact hsuccess
  · cases hdecode

theorem isSuccess_error (error : ApiError) : isSuccess error.response.status = false := by
  obtain ⟨kind, message⟩ := error
  cases kind <;> rfl

/-- A claim of an agent that is answered with success has got to the handler, for this agent. -/
theorem claim_handled {signed : SignedHeaders} (hid : FieldText signed.agentId) {state : State}
    (hsuccess : isSuccess (service.handle occasion (TaskCall.claim.request signed)
      state).1.status = true) :
    (service.passage occasion (TaskCall.claim.request signed) state).1 =
      .handled (.claim signed.agentId) := by
  have hclaim := isClaim_request signed
  have hmethod : (TaskCall.claim.request signed).method = "POST" := rfl
  have hpassage := service.passage_of_claim occasion state hclaim
  rw [Service.handle_status] at hsuccess
  rcases hgate : service.gate occasion (TaskCall.claim.request signed) state with ⟨result, nonces⟩
  rw [hgate] at hpassage
  cases result with
  | error error =>
      rw [hpassage] at hsuccess
      change isSuccess (ApiError.ofAuth error).response.status = true at hsuccess
      rw [isSuccess_error] at hsuccess
      cases hsuccess
  | ok agentId =>
      simp only [hmethod, ↓reduceIte] at hpassage
      have hhandled : (service.passage occasion (TaskCall.claim.request signed) state).1 =
          .handled (.claim agentId) := by
        rw [hpassage]
        rfl
      cases hsigned : service.signed? (TaskCall.claim.request signed) with
      | none =>
          exact absurd hhandled ((Service.passage_of_unsigned hsigned occasion state).2 agentId)
      | some read =>
          have hheaders : (TaskCall.claim.request signed).headers = signed.toHeaders := rfl
          obtain ⟨-, -, -, hread⟩ := Service.signed?_eq_some hsigned
          rw [hheaders] at hread
          rcases Service.passage_of_signed hsigned occasion state with ⟨-, -, -, hagent⟩ |
            ⟨error, -, hdenied⟩
          · rw [hhandled, hagent agentId hhandled, agentId_of_toHeaders hid hread]
          · rw [hdenied] at hhandled
            cases hhandled

theorem claim_answered {signed : SignedHeaders} (hid : FieldText signed.agentId) {task : Task}
    (hanswer : TaskCall.claim.read (Reply.ofResponse (service.handle occasion
      (TaskCall.claim.request signed) (service.after before)).1) = .ok (some task)) :
    service.TakesUp before (.request occasion (TaskCall.claim.request signed)) task.id ∧
      (service.after (before ++ [.request occasion (TaskCall.claim.request signed)])).tasks.findById?
        task.id = some task ∧ task.claimedBy = some signed.agentId := by
  have hpassage := claim_handled hid (isSuccess_of_decode (decode_of_read hanswer))
  have hhead : (TaskCall.claim.request signed).method ≠ "HEAD" := by
    change "POST" ≠ "HEAD"
    decide
  have hhandle := service.handle_eq occasion (TaskCall.claim.request signed) (service.after before)
  simp only [hpassage, Passage.serve, Handler.run, if_neg hhead] at hhandle
  have hafter : (service.after (before ++ [.request occasion
      (TaskCall.claim.request signed)])).tasks =
        (service.handle occasion (TaskCall.claim.request signed) (service.after before)).2.tasks := by
    rw [Service.after_snoc]
    rfl
  rcases claimFor_cases signed.agentId { service.after before with
    nonces := (service.passage occasion (TaskCall.claim.request signed)
      (service.after before)).2 } with ⟨id, number, found, hentry, hpending, hclaimed⟩ | hidle
  · have hfound : (service.after before).tasks.findById? id = some found := by
      rw [TaskStore.findById?, hentry]
      rfl
    obtain ⟨rfl, hsound, ⟨hpriority, hexit⟩, hregular⟩ := service.after_kept before hfound
    have hdecode := Reply.decode_valueResponse (Task.restores ⟨hpriority, hexit⟩ hregular :
      Task.shape.codec.Restores (Task.claimedFor found signed.agentId)) (rfl : isSuccess 200 = true)
    have hread := decode_of_read hanswer
    rw [hhandle, hclaimed, hdecode] at hread
    cases hread
    have hlater : (service.after (before ++ [.request occasion
        (TaskCall.claim.request signed)])).tasks.findById? found.id =
          some (Task.claimedFor found signed.agentId) := by
      rw [hafter, hhandle, hclaimed]
      exact (TaskStore.findById?_put _ _ _ _).trans (if_pos rfl)
    refine ⟨⟨found, _, hfound, hpending, hlater, ?_⟩, hlater, rfl⟩
    exact TaskStatus.noConfusion
  · rw [hhandle, hidle] at hanswer
    cases hanswer

end Muster.Agent
