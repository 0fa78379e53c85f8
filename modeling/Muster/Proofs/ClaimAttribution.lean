import Muster.ControlPlane.Program
import Muster.Proofs.FailedRequests
import Muster.Proofs.GrantedClaim
/-!
Whom a task is on file for. No request can say so of another agent: in every run, with signatures
asked for on all routes or on the one for claims alone, the agent in a task has claimed it with a
request that was let in under its key, and each such request has claimed one task.
-/
namespace Muster.ControlPlane

open Auth Http Json Store Time

section Agents

/-- No agent is lost from one store to the other. -/
def NoAgentLost (store next : AgentStore) : Prop :=
  ∀ id record, store.get? id = some record → ∃ later, next.get? id = some later

theorem NoAgentLost.refl (store : AgentStore) : NoAgentLost store store :=
  fun _ record hrecord => ⟨record, hrecord⟩

theorem NoAgentLost.trans {first second third : AgentStore} (hfirst : NoAgentLost first second)
    (hsecond : NoAgentLost second third) : NoAgentLost first third := by
  intro id record hrecord
  obtain ⟨middle, hmiddle⟩ := hfirst id record hrecord
  exact hsecond id middle hmiddle

theorem NoAgentLost.of_written {store next : AgentStore} {record : AgentRecord}
    (hget : ∀ id, next.get? id = if id = record.agentId then some record else store.get? id) :
    NoAgentLost store next := by
  intro id found hfound
  rw [hget]
  split
  · exact ⟨record, rfl⟩
  · exact ⟨found, hfound⟩

theorem registrationStep_noAgentLost (admission : Admission) (agentId : String) (now : Instant)
    (stage : RegistrationStage) (agents : AgentStore) :
    NoAgentLost agents
      (registrationStep AgentStore.repository admission agentId now stage agents).2 := by
  cases stage with
  | checkKey | checkFingerprint | findWinner | «over» => exact .refl agents
  | create record =>
      change NoAgentLost agents (agents.create record).2
      rcases agents.create_cases record with ⟨_, _, hcreate⟩ | ⟨_, _, _, _, hcreate⟩ |
        ⟨_, _, next, hcreate, hadded⟩
      · rw [hcreate]
        exact .refl agents
      · rw [hcreate]
        exact .refl agents
      · rw [hcreate]
        exact .of_written hadded.get
  | update record =>
      change NoAgentLost agents (agents.update record).2
      rcases agents.update_outcomes record with ⟨next, hupdate, hget⟩ | ⟨error, hupdate⟩
      · rw [hupdate]
        exact .of_written hget
      · rw [hupdate]
        exact .refl agents

theorem runRegistration_noAgentLost (admission : Admission) (agentId : String) (now : Instant)
    (steps : Nat) (stage : RegistrationStage) (agents : AgentStore) :
    NoAgentLost agents
      (runRegistration AgentStore.repository admission agentId now steps stage agents).2 := by
  induction steps generalizing stage agents with
  | zero => exact .refl agents
  | succ steps ih =>
      exact (registrationStep_noAgentLost admission agentId now stage agents).trans (ih _ _)

theorem register_noAgentLost (tokens : BootstrapTokens) (request : RegistrationRequest)
    (agentId : String) (now : Instant) (agents : AgentStore) :
    NoAgentLost agents (register AgentStore.repository tokens request agentId now agents).2 := by
  simp only [register]
  cases Admission.ofRequest tokens request with
  | error error => exact .refl agents
  | ok admission =>
      have hrun := runRegistration_noAgentLost admission agentId now mostCalls .checkKey agents
      rcases hresult : runRegistration AgentStore.repository admission agentId now mostCalls
        .checkKey agents with ⟨stage, next⟩
      rw [hresult] at hrun
      simp only [hresult]
      cases stage <;> exact hrun

theorem Service.registerAgent_noAgentLost (service : Service) (occasion : Occasion)
    (request : Request) (state : State) :
    NoAgentLost state.agents (service.registerAgent occasion request state).2.agents := by
  simp only [registerAgent]
  cases hbody : readBody RegistrationRequest.shape.codec request with
  | error error => exact .refl state.agents
  | ok body =>
      have hkept := register_noAgentLost service.tokens body occasion.agentId occasion.now
        state.agents
      rcases hregister : register AgentStore.repository service.tokens body occasion.agentId
        occasion.now state.agents with ⟨result, agents⟩
      rw [hregister] at hkept
      simp only [hregister]
      cases result <;> exact hkept

theorem Service.step_noAgentLost (service : Service) (state : State) (event : ServerEvent) :
    NoAgentLost state.agents (service.step state event).agents := by
  cases event with
  | sweep now => exact .refl state.agents
  | request occasion request =>
      simp only [step, handle_state]
      rcases service.passage occasion request state with ⟨passage, nonces⟩
      cases passage with
      | noRoute | denied | noMethod => exact .refl state.agents
      | handled handler =>
          cases handler with
          | register => exact service.registerAgent_noAgentLost occasion request { state with nonces }
          | tasks action => exact .refl state.agents
          | claim agentId => exact .refl state.agents

theorem Service.after_noAgentLost (service : Service) (before later : List ServerEvent) :
    NoAgentLost (service.after before).agents (service.after (before ++ later)).agents := by
  induction later using List.reverseRecOn with
  | nil =>
      rw [List.append_nil]
      exact .refl _
  | append_singleton later event ih =>
      rw [← List.append_assoc, after_snoc]
      exact ih.trans (service.step_noAgentLost _ event)

end Agents

section Claimant

/-- The agent that a task is on file for. -/
def Service.claimant (service : Service) (events : List ServerEvent) (id : String) :
    Option String :=
  ((service.after events).tasks.findById? id).bind Task.claimedBy

/-- The request claims the task for the agent that signed it: it comes to the route for claims, is let
in, and finds the task pending and nobody's. -/
structure Service.Claims (service : Service) (before : List ServerEvent) (occasion : Occasion)
    (request : Request) (signed : SignedHeaders) (id : String) : Prop where
  route : IsClaim request
  method : request.method = "POST"
  letIn : service.LetsIn before occasion request signed
  given : ∃ task, (service.after before).tasks.findById? id = some task ∧ task.status = .pending ∧
    task.claimedBy = none ∧
    (service.after (before ++ [.request occasion request])).tasks.findById? id =
      some (Task.claimedFor task signed.agentId)

variable {service : Service} {before : List ServerEvent} {occasion : Occasion} {request : Request}
  {signed : SignedHeaders} {id : String}

/-- A claim takes the task out of the pending ones, for the agent that signed. -/
theorem Service.Claims.takesUp (hclaims : service.Claims before occasion request signed id) :
    service.TakesUp before (.request occasion request) id := by
  obtain ⟨task, htask, hpending, -, hlater⟩ := hclaims.given
  exact ⟨task, _, htask, hpending, hlater, TaskStatus.noConfusion⟩

/-- One event changes whom a task is on file for only by claiming it. -/
theorem Service.claimant_step (service : Service) (before : List ServerEvent) (event : ServerEvent)
    (id : String) :
    service.claimant (before ++ [event]) id = service.claimant before id ∨
      ∃ occasion request signed, event = .request occasion request ∧
        service.Claims before occasion request signed id ∧
        service.claimant (before ++ [event]) id = some signed.agentId := by
  have hafter := service.after_snoc before event
  simp only [claimant]
  rcases service.step_tasks (service.after before) event with hsame |
    ⟨occasion, request, handler, call, rfl, hpassage, hcalls, hnext⟩
  · left
    rw [hafter, hsame]
  · have heffect := call.effect_perform (service.after before).tasks
    rw [← hnext, ← hafter] at heffect
    cases hbefore : (service.after before).tasks.findById? id with
    | none =>
        left
        cases hlater : (service.after (before ++ [.request occasion request])).tasks.findById? id with
        | none => rfl
        | some later =>
            obtain ⟨body, now, -, -, rfl⟩ := heffect.new hbefore hlater
            rfl
    | some task =>
        obtain ⟨later, hlater, hchange⟩ := heffect.change hbefore
        rw [hlater]
        cases hchange with
        | unchanged => exact Or.inl rfl
        | reported => exact Or.inl rfl
        | claimed agentId hcall hpending hresult =>
            right
            cases hcall
            cases hcalls
            obtain ⟨hroute, hmethod, signed, hin, rfl⟩ := claim_letsIn hpassage
            have hnobody := (service.after_kept before hbefore).sound.unclaimed hpending
            exact ⟨occasion, request, signed, rfl,
              ⟨hroute, hmethod, hin, task, hbefore, hpending, hnobody, hlater⟩, rfl⟩

/-- The agent that a task is on file for has claimed it at some moment of the run. -/
theorem Service.claimed_of_claimant (service : Service) {events : List ServerEvent}
    {agentId : String} (hclaimant : service.claimant events id = some agentId) :
    ∃ before occasion request signed, before ++ [.request occasion request] <+: events ∧
      service.Claims before occasion request signed id ∧ signed.agentId = agentId := by
  induction events using List.reverseRecOn with
  | nil => cases hclaimant
  | append_singleton events event ih =>
      rcases service.claimant_step events event id with hsame |
        ⟨occasion, request, signed, rfl, hclaims, hnew⟩
      · rw [hsame] at hclaimant
        obtain ⟨before, occasion, request, signed, hmoment, hclaims⟩ := ih hclaimant
        exact ⟨before, occasion, request, signed, hmoment.trans (List.prefix_append _ _), hclaims⟩
      · rw [hnew] at hclaimant
        exact ⟨events, occasion, request, signed, List.prefix_refl _, hclaims,
          Option.some.inj hclaimant⟩

/-- Claims of one task are one claim, and claims with the same signed fields are. -/
theorem Service.Claims.identity_iff {seconds : Nat} (hwindow : service.window = windowOf seconds)
    (hseconds : (seconds : Int) < greatestSecond64) {events : List ServerEvent}
    (hclock : ClockNeverBack events) {before₁ before₂ : List ServerEvent}
    {occasion₁ occasion₂ : Occasion} {request₁ request₂ : Request} {signed₁ signed₂ : SignedHeaders}
    {id₁ id₂ : String} (hfirst : before₁ ++ [.request occasion₁ request₁] <+: events)
    (hsecond : before₂ ++ [.request occasion₂ request₂] <+: events)
    (hclaims₁ : service.Claims before₁ occasion₁ request₁ signed₁ id₁)
    (hclaims₂ : service.Claims before₂ occasion₂ request₂ signed₂ id₂) :
    signed₁.identity = signed₂.identity ↔ id₁ = id₂ := by
  have hclock₁ := hclock.sublist (hfirst.sublist.map ServerEvent.clock)
  have hclock₂ := hclock.sublist (hsecond.sublist.map ServerEvent.clock)
  rcases prefix_trichotomy hfirst hsecond with hearlier | hlater | ⟨rfl, hsame⟩
  · have hother := hclaims₁.letIn.not_again hwindow hseconds hclock₂ hearlier hclaims₂.letIn
    have hapart : id₁ ≠ id₂ := by
      rintro rfl
      obtain ⟨task, htask, hpending, -⟩ := hclaims₂.given
      exact hclaims₁.takesUp.not_again hearlier htask hpending
    exact iff_of_false hother hapart
  · have hother := hclaims₂.letIn.not_again hwindow hseconds hclock₁ hlater hclaims₁.letIn
    have hapart : id₁ ≠ id₂ := by
      rintro rfl
      obtain ⟨task, htask, hpending, -⟩ := hclaims₁.given
      exact hclaims₂.takesUp.not_again hlater htask hpending
    exact iff_of_false (Ne.symm hother) hapart
  · cases hsame
    have hsigned := hclaims₁.letIn.headers.symm.trans hclaims₂.letIn.headers
    cases hsigned
    exact iff_of_true rfl (hclaims₁.takesUp.one hclaims₁.route hclaims₂.takesUp)

end Claimant

section Unfit

/-- Why a request cannot claim: it is not signed, its signature is not one of the agent that it names,
it comes too long before or after the second that it was signed in, or the same has been let in
before. -/
inductive Service.Unfit (service : Service) (seconds : Nat) (before : List ServerEvent)
    (occasion : Occasion) (request : Request) : Prop
  | unsigned (error : AuthError)
      (hheaders : SignedHeaders.ofHeaders request.headers = .error error)
  | forged (signed : SignedHeaders)
      (hheaders : SignedHeaders.ofHeaders request.headers = .ok signed)
      (hforged : ¬ signed.Genuine (service.after before).agents)
  | expired (signed : SignedHeaders)
      (hheaders : SignedHeaders.ofHeaders request.headers = .ok signed)
      (hage : (seconds : Int) < |occasion.now.seconds - signed.timestamp|)
  | repeated (signed earlier : SignedHeaders)
      (hheaders : SignedHeaders.ofHeaders request.headers = .ok signed)
      (past : List ServerEvent) (occasion' : Occasion) (request' : Request)
      (hpast : past ++ [.request occasion' request'] <+: before)
      (hin : service.LetsIn past occasion' request' earlier)
      (hsame : earlier.identity = signed.identity)

variable {service : Service} {before : List ServerEvent} {occasion : Occasion} {request : Request}
  {seconds : Nat}

theorem Service.Unfit.not_letsIn (hunfit : service.Unfit seconds before occasion request)
    (hwindow : service.window = windowOf seconds) (hseconds : (seconds : Int) < greatestSecond64)
    (hclock : ClockNeverBack (before ++ [.request occasion request])) (signed : SignedHeaders) :
    ¬ service.LetsIn before occasion request signed := by
  intro hin
  obtain ⟨-, -, -, hread⟩ := signed?_eq_some hin.headers
  obtain ⟨hgenuine, hage, -⟩ := hin.admitted
  cases hunfit with
  | unsigned error hheaders =>
      rw [hheaders] at hread
      cases hread
  | forged other hheaders hforged =>
      rw [hheaders] at hread
      cases hread
      exact hforged hgenuine
  | expired other hheaders hpast =>
      rw [hheaders] at hread
      cases hread
      have hpos : (0 : Int) ≤ seconds := Int.natCast_nonneg seconds
      rw [hwindow, windowOf_eq hseconds, distance64_le_iff hpos hseconds] at hage
      omega
  | repeated other earlier hheaders past occasion' request' hpast hbefore hsame =>
      rw [hheaders] at hread
      cases hread
      exact hbefore.not_again hwindow hseconds hclock hpast hin hsame

/-- A request on the route for claims changes tasks only where it claims one. -/
theorem Service.tasks_of_claim (hclaim : IsClaim request) (hnone : ∀ agentId,
    (service.passage occasion request (service.after before)).1 ≠ .handled (.claim agentId)) :
    (service.after (before ++ [.request occasion request])).tasks = (service.after before).tasks := by
  rw [after_snoc]
  rcases service.step_tasks (service.after before) (.request occasion request) with hsame |
    ⟨_, _, handler, call, hevent, hpassage, -, -⟩
  · exact hsame
  · cases hevent
    obtain ⟨agentId, rfl⟩ := handler_of_claim hclaim hpassage
    exact absurd hpassage (hnone agentId)

end Unfit

/-- What the tasks of a run say of those who have claimed them. -/
structure ClaimsAttributed (service : Service) (seconds : Nat) (events : List ServerEvent) :
    Prop where
  /-- The agent in a task has claimed it, with a key that it had on file, and is on file. -/
  claimed : ∀ id agentId, service.claimant events id = some agentId →
    (∃ before occasion request signed, before ++ [.request occasion request] <+: events ∧
      service.Claims before occasion request signed id ∧ signed.agentId = agentId ∧
      signed.Genuine (service.after before).agents) ∧
    ∃ record, (service.after events).agents.get? agentId = some record
  /-- One signed request, sent once or several times, claims one task, and each task is claimed by
  one. -/
  distinct : ∀ before₁ occasion₁ request₁ signed₁ id₁ before₂ occasion₂ request₂ signed₂ id₂,
    before₁ ++ [.request occasion₁ request₁] <+: events →
    before₂ ++ [.request occasion₂ request₂] <+: events →
    service.Claims before₁ occasion₁ request₁ signed₁ id₁ →
    service.Claims before₂ occasion₂ request₂ signed₂ id₂ →
    (signed₁.identity = signed₂.identity ↔ id₁ = id₂)
  /-- A request that is unfit gets no task for anybody, on whatever route, and moves none on the route
  for claims. -/
  refused : ∀ before occasion request, before ++ [.request occasion request] <+: events →
    service.Unfit seconds before occasion request →
    (∀ agentId, (service.passage occasion request (service.after before)).1 ≠
      .handled (.claim agentId)) ∧
    (∀ id, service.claimant (before ++ [.request occasion request]) id =
      service.claimant before id) ∧
    (IsClaim request → (service.after (before ++ [.request occasion request])).tasks =
      (service.after before).tasks)

/-- In every run of a control plane, whether or not it takes requests about tasks unsigned, each task
is on file for an agent only if that agent has claimed it with a signed request that claimed no other
task, as long as the clock does not go back. -/
theorem claims_attributed (config : Config)
    (hwindow : (config.freshnessWindow : Int) < greatestSecond64) {events : List ServerEvent}
    (hclock : ClockNeverBack events) :
    ClaimsAttributed config.service config.freshnessWindow events where
  claimed id agentId hclaimant := by
    obtain ⟨before, occasion, request, signed, hmoment, hclaims, rfl⟩ :=
      config.service.claimed_of_claimant hclaimant
    obtain ⟨hgenuine, -, -⟩ := hclaims.letIn.admitted
    refine ⟨⟨before, occasion, request, signed, hmoment, hclaims, rfl, hgenuine⟩, ?_⟩
    obtain ⟨record, hrecord, -, -⟩ := hgenuine
    obtain ⟨rest, rfl⟩ := (List.prefix_append before _).trans hmoment
    exact config.service.after_noAgentLost before rest _ record hrecord
  distinct before₁ occasion₁ request₁ signed₁ id₁ before₂ occasion₂ request₂ signed₂ id₂ hfirst
      hsecond hclaims₁ hclaims₂ :=
    Service.Claims.identity_iff rfl hwindow hclock hfirst hsecond hclaims₁ hclaims₂
  refused before occasion request hmoment hunfit := by
    have hout := hunfit.not_letsIn rfl hwindow
      (hclock.sublist (hmoment.sublist.map ServerEvent.clock))
    have hnone : ∀ agentId, (config.service.passage occasion request
        (config.service.after before)).1 ≠ .handled (.claim agentId) := by
      intro agentId hpassage
      obtain ⟨-, -, signed, hin, -⟩ := Service.claim_letsIn hpassage
      exact hout signed hin
    refine ⟨hnone, ?_, fun hclaim => Service.tasks_of_claim hclaim hnone⟩
    intro id
    rcases config.service.claimant_step before (.request occasion request) id with hsame |
      ⟨_, _, signed, hevent, hclaims, -⟩
    · exact hsame
    · cases hevent
      exact absurd hclaims.letIn (hout signed)

section Sole

open Agent

/-- The sole agent claims the one task there is. Its request comes once more behind a sweep, and a
third time without its signature. -/
theorem claims_attributed_of_repetition :
    let claim := TaskCall.claim.request (soleAgent.signedHeaders 0 ⟨[], 2⟩).1
    let later : List ServerEvent := [.sweep Instant.epoch, .request soleOccasion claim,
      .request soleOccasion { claim with headers := [] }]
    let events := soleStart ++ [.request soleOccasion claim] ++ later
    soleConfig.service.claimant events soleTask.id = some soleAgent.agentId ∧
      ClaimsAttributed soleConfig.service soleConfig.freshnessWindow events := by
  intro claim later events
  have hclock : ClockNeverBack events := by decide
  refine ⟨?_, claims_attributed soleConfig (by decide) hclock⟩
  have hid : IssuedAgentId soleAgent.agentId := ⟨⟨[], 0⟩, rfl⟩
  obtain ⟨-, hstored, hclaimant⟩ := claim_answered hid.fieldText sole_answered
  obtain ⟨found, hfound, hbecomes⟩ := soleConfig.service.after_becomes _ later hstored
  have hkept : (soleConfig.service.after events).tasks.findById? soleTask.id = some found := hfound
  rw [Service.claimant, hkept]
  exact hbecomes.claimedBy _ hclaimant

end Sole

end Muster.ControlPlane
