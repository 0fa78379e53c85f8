import Muster.Proofs.GrantedClaim
import Muster.Proofs.ReportRequests
/-!
What becomes of the results of a command while its poll reports them. The poll may send its report any
number of times, each of them may be lost, come late or come again, and so may the answers. Still the
task holds either what it held when it was claimed or all of the results, and it holds these from the
first report on that the control plane does not turn away.
-/
namespace Muster.Agent

open Auth Bytes ControlPlane Http Store Time

theorem not_isClaim_report {id : String} (hid : TaskIdForm id) (update : UpdateTaskRequest)
    (signed : SignedHeaders) : ¬ IsClaim ((TaskCall.report id update).request signed) := by
  intro hclaim
  have hroute : Route.ofTarget? (Target.ofText
      ((TaskCall.report id update).request signed).target) = some (.task id) := hid.route
  rw [IsClaim, hroute] at hclaim
  cases hclaim

/-- A stage at which a poll reports these results, waits to report them again, or is over. -/
def ReportsOn (id : String) (update : UpdateTaskRequest) : PollStage → Prop
  | .claim | .execute _ => False
  | .report id' update' _ | .pause id' update' _ => id' = id ∧ update' = update
  | .over _ => True

/-- Only what it reports on takes a poll on from there. -/
theorem ReportsOn.next {id : String} {update : UpdateTaskRequest} {stage : PollStage}
    (hreports : ReportsOn id update stage) (policy : Backoff) (reply : PollReply) :
    ReportsOn id update (stage.next policy reply) := by
  cases stage with
  | claim | execute => cases hreports
  | «over» result => cases reply <;> trivial
  | pause id' update' failures => cases reply <;> exact hreports
  | report id' update' failures =>
      cases reply with
      | executed | resumed => exact hreports
      | answered result =>
          cases result with
          | ok task => trivial
          | error error =>
              simp only [PollStage.next, afterFailure]
              split
              · exact hreports
              · trivial

variable {ι : Type} [DecidableEq ι]

/-- What an event can do to a fleet, as far as messages and stages go. -/
inductive Fleet.Moves (service : Service) (polls : ι → Poll) (fleet : Fleet ι) :
    FleetEvent ι → Fleet ι → Prop
  | stays (event : FleetEvent ι) : Moves service polls fleet event fleet
  | sends (i : ι) (now : Int) (source : Entropy) (call : TaskCall) (signed : SignedHeaders)
      (hcall : (fleet.stage i).call? = some (.send call)) :
      Moves service polls fleet (.send i now source) { fleet with
        sent := fleet.sent ++ [⟨i, call.request signed⟩]
        waiting := Function.update fleet.waiting i (some (call.request signed)) }
  | arrives (number : Nat) (i : ι) (request : Request) (occasion : Occasion)
      (hsent : ⟨i, request⟩ ∈ fleet.sent) :
      Moves service polls fleet (.arrive number occasion) { fleet with
        arrivals := fleet.arrivals ++ [⟨some i, .request occasion request⟩]
        answers := fleet.answers ++ [⟨i, request, Reply.ofResponse
          (service.handle occasion request (service.after fleet.events)).1⟩] }
  | happens (event : ServerEvent) : Moves service polls fleet (.other event)
      { fleet with arrivals := fleet.arrivals ++ [⟨none, event⟩] }
  | goesOn (event : FleetEvent ι) (i : ι) (reply : PollReply) (waiting : ι → Option Request)
      (executed : List (ι × Task)) : Moves service polls fleet event { fleet with
        stage := Function.update fleet.stage i ((fleet.stage i).next (polls i).policy reply)
        waiting := waiting
        executed := executed }

section Step

variable {service : Service} {polls : ι → Poll} {fleet next : Fleet ι} {event : FleetEvent ι} {i : ι}

theorem Fleet.receive_moves (result : Except SendError Reply) :
    fleet.Moves service polls event (fleet.receive polls i result) := by
  simp only [receive]
  split
  · exact .goesOn event i _ _ fleet.executed
  · exact .stays event

theorem Fleet.step_moves (service : Service) (polls : ι → Poll) (fleet : Fleet ι)
    (event : FleetEvent ι) : fleet.Moves service polls event (fleet.step service polls event) := by
  cases event with
  | send i now source =>
      simp only [step]
      split
      · next call _ hcall => exact .sends i now source call _ hcall
      · exact .stays _
  | arrive number occasion =>
      simp only [step]
      cases hsent : fleet.sent[number]? with
      | none => exact .stays _
      | some sent =>
          exact .arrives number sent.poll sent.request occasion (List.mem_of_getElem? hsent)
  | other event => exact .happens event
  | answer number =>
      simp only [step]
      split
      · split
        · exact receive_moves _
        · exact .stays _
      · exact .stays _
  | lose i error =>
      simp only [step]
      split
      · exact receive_moves _
      · exact .stays _
  | execute i execution =>
      simp only [step]
      split
      · next task hstage =>
          rw [← hstage]
          exact .goesOn _ i _ fleet.waiting _
      · exact .stays _
  | resume i =>
      simp only [step]
      split
      · next hstage =>
          rw [← hstage]
          exact .goesOn _ i _ fleet.waiting fleet.executed
      · exact .stays _

theorem Fleet.Moves.arrivals (hmoves : fleet.Moves service polls event next) :
    fleet.arrivals <+: next.arrivals := by
  cases hmoves with
  | arrives | happens => exact List.prefix_append _ _
  | stays | sends | goesOn => exact List.prefix_refl _

/-- What has been sent and has arrived goes with the stages of the polls. -/
structure Fleet.Traced (fleet : Fleet ι) : Prop where
  arrived : ∀ i event, ⟨some i, event⟩ ∈ fleet.arrivals →
    ∃ occasion request, event = .request occasion request ∧ ⟨i, request⟩ ∈ fleet.sent
  claims : ∀ i request, ¬ Spent (fleet.stage i) → ⟨i, request⟩ ∈ fleet.sent → IsClaim request

omit [DecidableEq ι] in
theorem Fleet.traced_start : (Fleet.start : Fleet ι).Traced := by
  constructor
  · intro i event harrived
    cases harrived
  · intro i request _ hsent
    cases hsent

theorem Fleet.Traced.moves (htraced : fleet.Traced) (hmoves : fleet.Moves service polls event next) :
    next.Traced := by
  cases hmoves with
  | stays => exact htraced
  | happens event =>
      refine ⟨?_, htraced.claims⟩
      intro i arrived harrived
      rcases List.mem_append.1 harrived with hold | hnew
      · exact htraced.arrived i arrived hold
      · cases List.mem_singleton.1 hnew
  | arrives number j request occasion hsent =>
      refine ⟨?_, htraced.claims⟩
      intro i arrived harrived
      rcases List.mem_append.1 harrived with hold | hnew
      · exact htraced.arrived i arrived hold
      · cases List.mem_singleton.1 hnew
        exact ⟨occasion, request, rfl, hsent⟩
  | sends j now source call signed hcall =>
      constructor
      · intro i arrived harrived
        obtain ⟨occasion, request, hevent, hsent⟩ := htraced.arrived i arrived harrived
        exact ⟨occasion, request, hevent, List.mem_append_left _ hsent⟩
      · intro i request hunspent hsent
        rcases List.mem_append.1 hsent with hold | hnew
        · exact htraced.claims i request hunspent hold
        · cases List.mem_singleton.1 hnew
          change ¬ Spent (fleet.stage j) at hunspent
          cases hstage : fleet.stage j with
          | claim =>
              rw [hstage] at hcall
              cases hcall
              exact isClaim_request signed
          | execute task =>
              rw [hstage] at hcall
              cases hcall
          | report | pause | «over» =>
              rw [hstage] at hunspent
              exact absurd trivial hunspent
  | goesOn event j reply waiting executed =>
      refine ⟨htraced.arrived, ?_⟩
      intro i request hunspent hsent
      refine htraced.claims i request ?_ hsent
      intro hspent
      apply hunspent
      change Spent (Function.update fleet.stage j _ i)
      by_cases hmover : i = j
      · subst hmover
        rw [Function.update_self]
        exact hspent.next _ _
      · rw [Function.update_of_ne hmover]
        exact hspent

/-- All that the poll has sent is claims and reports of these results, and it goes on so. -/
structure Fleet.Reporting (fleet : Fleet ι) (i : ι) (id : String) (update : UpdateTaskRequest) :
    Prop where
  stage : ReportsOn id update (fleet.stage i)
  sent : ∀ request, ⟨i, request⟩ ∈ fleet.sent →
    IsClaim request ∨ ∃ signed, request = (TaskCall.report id update).request signed

theorem Fleet.Reporting.moves {id : String} {update : UpdateTaskRequest}
    (hreporting : fleet.Reporting i id update) (hmoves : fleet.Moves service polls event next) :
    next.Reporting i id update := by
  cases hmoves with
  | stays | happens | arrives => exact ⟨hreporting.stage, hreporting.sent⟩
  | sends j now source call signed hcall =>
      refine ⟨hreporting.stage, ?_⟩
      intro request hsent
      rcases List.mem_append.1 hsent with hold | hnew
      · exact hreporting.sent request hold
      · cases List.mem_singleton.1 hnew
        have hstage := hreporting.stage
        cases hnow : fleet.stage i with
        | claim | execute =>
            rw [hnow] at hstage
            cases hstage
        | pause | «over» =>
            rw [hnow] at hcall
            cases hcall
        | report id' update' failures =>
            rw [hnow] at hcall hstage
            obtain ⟨rfl, rfl⟩ := hstage
            cases hcall
            exact Or.inr ⟨signed, rfl⟩
  | goesOn event j reply waiting executed =>
      refine ⟨?_, hreporting.sent⟩
      change ReportsOn id update (Function.update fleet.stage j _ i)
      by_cases hmover : i = j
      · subst hmover
        rw [Function.update_self]
        exact hreporting.stage.next _ _
      · rw [Function.update_of_ne hmover]
        exact hreporting.stage

end Step

section Run

variable {service : Service} {polls : ι → Poll} {i : ι} {task : Task} {execution : Execution}
  {first rest : List (FleetEvent ι)}

theorem Fleet.run_traced (service : Service) (polls : ι → Poll) (events : List (FleetEvent ι)) :
    (Fleet.run service polls events).Traced := by
  induction events using List.reverseRecOn with
  | nil => exact traced_start
  | append_singleton events event ih =>
      rw [run_snoc]
      exact ih.moves (step_moves service polls _ event)

theorem Fleet.run_arrivals (service : Service) (polls : ι → Poll)
    (events later : List (FleetEvent ι)) : (Fleet.run service polls events).arrivals <+:
      (Fleet.run service polls (events ++ later)).arrivals := by
  induction later using List.reverseRecOn with
  | nil => simp only [List.append_nil, List.prefix_refl]
  | append_singleton later event ih =>
      rw [← List.append_assoc, run_snoc]
      exact ih.trans (step_moves service polls _ event).arrivals

/-- What came in for no poll is what others asked for. -/
theorem Fleet.run_others {events : List (FleetEvent ι)} {event : ServerEvent}
    (harrived : ⟨none, event⟩ ∈ (Fleet.run service polls events).arrivals) :
    .other event ∈ events := by
  induction events using List.reverseRecOn with
  | nil => cases harrived
  | append_singleton events last ih =>
      have hmoves := step_moves service polls (Fleet.run service polls events) last
      rw [run_snoc] at harrived
      generalize (Fleet.run service polls events).step service polls last = next at hmoves harrived
      cases hmoves with
      | stays | sends | goesOn => exact List.mem_append_left _ (ih harrived)
      | arrives number i request occasion hsent =>
          rcases List.mem_append.1 harrived with hold | hnew
          · exact List.mem_append_left _ (ih hold)
          · cases List.mem_singleton.1 hnew
      | happens other =>
          rcases List.mem_append.1 harrived with hold | hnew
          · exact List.mem_append_left _ (ih hold)
          · cases List.mem_singleton.1 hnew
            exact List.mem_append_right _ (List.mem_singleton_self _)

/-- Behind its command a poll reports the results, whatever happens. -/
theorem Fleet.run_reporting (hstage : (Fleet.run service polls first).stage i = .execute task)
    (rest : List (FleetEvent ι)) :
    (Fleet.run service polls (first ++ .execute i execution :: rest)).Reporting i task.id
      execution.report := by
  induction rest using List.reverseRecOn with
  | nil =>
      have hunspent : ¬ Spent ((Fleet.run service polls first).stage i) := by
        rw [hstage]
        exact not_false
      rw [run_snoc]
      simp only [step, hstage]
      constructor
      · change ReportsOn task.id execution.report
          (Function.update (Fleet.run service polls first).stage i _ i)
        rw [Function.update_self]
        exact ⟨rfl, rfl⟩
      · intro request hsent
        exact Or.inl ((run_traced service polls first).claims i request hunspent hsent)
  | append_singleton rest event ih =>
      rw [← List.cons_append, ← List.append_assoc, run_snoc]
      exact ih.moves (step_moves service polls _ event)

/-- Within a run the poll executes the task that it has claimed, with these results, and no event that
is not for this poll ever updates the task. -/
structure Executes (service : Service) (polls : ι → Poll) (i : ι) (task : Task)
    (execution : Execution) (first rest : List (FleetEvent ι)) : Prop where
  ids : ∀ j, IssuedAgentId (polls j).agent.agentId
  stage : (Fleet.run service polls first).stage i = .execute task
  id : TaskIdForm task.id
  fits : execution.report.Fits
  alone : ∀ before poll? event, before ++ [⟨poll?, event⟩] <+:
      (Fleet.run service polls (first ++ .execute i execution :: rest)).arrivals →
    Updates service (before.map Arrival.event) event task.id → poll? = some i

/-- Among what has arrived is a report of the poll on these results that was not turned away. -/
def Reported (service : Service) (arrivals : List (Arrival ι)) (i : ι) (id : String)
    (execution : Execution) : Prop :=
  ∃ before event, before ++ [⟨some i, event⟩] <+: arrivals ∧
    Reports service (before.map Arrival.event) event id execution

omit [DecidableEq ι] in
theorem Reported.mono {arrivals later : List (Arrival ι)} {id : String}
    (hreported : Reported service arrivals i id execution) (hlater : arrivals <+: later) :
    Reported service later i id execution := by
  obtain ⟨before, event, hmoment, hreports⟩ := hreported
  exact ⟨before, event, hmoment.trans hlater, hreports⟩

/-- What has come to the control plane of a poll that executes, claims it sent before and reports it
sent behind its command. -/
theorem Executes.arrival (hexecutes : Executes service polls i task execution first rest)
    {event : ServerEvent} (harrived : ⟨some i, event⟩ ∈
      (Fleet.run service polls (first ++ .execute i execution :: rest)).arrivals) :
    ∃ occasion request, event = .request occasion request ∧ (IsClaim request ∨
      ∃ signed, request = (TaskCall.report task.id execution.report).request signed) := by
  obtain ⟨occasion, request, hevent, hsent⟩ :=
    (Fleet.run_traced service polls _).arrived i event harrived
  exact ⟨occasion, request, hevent, (Fleet.run_reporting hexecutes.stage rest).sent request hsent⟩

omit [DecidableEq ι] in
theorem Fleet.mem_of_moment {before arrivals : List (Arrival ι)} {arrival : Arrival ι}
    (hmoment : before ++ [arrival] <+: arrivals) : arrival ∈ arrivals :=
  hmoment.subset (List.mem_append_right _ (List.mem_singleton_self arrival))

omit [DecidableEq ι] in
theorem Fleet.arrival_of_event (before : List (Arrival ι)) {later : List (Arrival ι)}
    {middle : List ServerEvent} {event : ServerEvent}
    (hmoment : middle ++ [event] <+: later.map Arrival.event) :
    ∃ past poll?, past ++ [⟨poll?, event⟩] <+: before ++ later ∧
      past.map Arrival.event = before.map Arrival.event ++ middle := by
  obtain ⟨moment, hprefix, hmap⟩ := List.prefix_map_iff.1 hmoment
  obtain ⟨part, last, rfl, rfl, hlast⟩ := List.map_eq_append_iff.1 hmap.symm
  obtain ⟨⟨poll?, arrived⟩, rfl, rfl⟩ := List.map_eq_singleton_iff.1 hlast
  refine ⟨before ++ part, poll?, ?_, List.map_append⟩
  rw [List.append_assoc]
  exact (List.prefix_append_right_inj before).2 hprefix

/-- Up to its command a poll has sent claims only. -/
theorem Executes.claims (hexecutes : Executes service polls i task execution first rest)
    {event : ServerEvent} (harrived : ⟨some i, event⟩ ∈ (Fleet.run service polls first).arrivals) :
    ∃ occasion request, event = .request occasion request ∧ IsClaim request := by
  have htraced : (Fleet.run service polls first).Traced := Fleet.run_traced service polls first
  obtain ⟨occasion, request, hevent, hsent⟩ := htraced.arrived i event harrived
  refine ⟨occasion, request, hevent, htraced.claims i request ?_ hsent⟩
  rw [hexecutes.stage]
  exact not_false

/-- At some moment before the command the task was on file as it is executed, running for the agent of
the poll. -/
theorem Executes.given (hexecutes : Executes service polls i task execution first rest) :
    ∃ front, front <+: (Fleet.run service polls first).arrivals ∧
      (service.after (front.map Arrival.event)).tasks.findById? task.id = some task ∧
      Task.Kept task.id task ∧ task.status = .running ∧
      task.claimedBy = some (polls i).agent.agentId := by
  obtain ⟨before, event, hmoment, htakes, hstored, hagent⟩ :=
    (Fleet.run_orderly hexecutes.ids first).claimed i task hexecutes.stage
  obtain ⟨occasion, request, rfl, hclaim⟩ := hexecutes.claims (Fleet.mem_of_moment hmoment)
  obtain ⟨agentId, found, -, -, -, hgiven⟩ := htakes.claimed hclaim
  have hrunning : task.status = .running := by
    rw [Option.some.inj (hstored.symm.trans hgiven)]
    rfl
  refine ⟨_, hmoment, ?_, service.after_kept _ hstored, hrunning, hagent⟩
  rw [List.map_append]
  exact hstored

/-- Only reports on its results update the task of such a poll. -/
theorem Executes.reports_of_updates
    (hexecutes : Executes service polls i task execution first rest) {before : List (Arrival ι)}
    {poll? : Option ι} {event : ServerEvent} (hmoment : before ++ [⟨poll?, event⟩] <+:
      (Fleet.run service polls (first ++ .execute i execution :: rest)).arrivals)
    (hupdates : Updates service (before.map Arrival.event) event task.id) :
    poll? = some i ∧ ∃ occasion signed, event = .request occasion
      ((TaskCall.report task.id execution.report).request signed) := by
  cases hexecutes.alone before poll? event hmoment hupdates
  obtain ⟨occasion, request, rfl, hclaim | ⟨signed, rfl⟩⟩ :=
    hexecutes.arrival (Fleet.mem_of_moment hmoment)
  · obtain ⟨_, _, segment, hevent, hpassage, -⟩ := hupdates
    cases hevent
    obtain ⟨agentId, hhandler⟩ := Service.handler_of_claim hclaim hpassage
    cases hhandler
  · exact ⟨rfl, occasion, signed, rfl⟩

/-- A report on the results comes in behind all that came in before the command. -/
theorem Executes.past_of_reports (hexecutes : Executes service polls i task execution first rest)
    {past arrivals : List (Arrival ι)} {event : ServerEvent}
    (hreports : Reports service (past.map Arrival.event) event task.id execution)
    (hpast : past ++ [⟨some i, event⟩] <+: arrivals)
    (hfirst : (Fleet.run service polls first).arrivals <+: arrivals) :
    (Fleet.run service polls first).arrivals <+: past := by
  have hlate : ⟨some i, event⟩ ∉ (Fleet.run service polls first).arrivals := by
    intro harrived
    obtain ⟨occasion, request, rfl, hclaim⟩ := hexecutes.claims harrived
    obtain ⟨_, signed, hevent, -⟩ := hreports
    cases hevent
    exact not_isClaim_report hexecutes.id _ _ hclaim
  rcases List.prefix_or_prefix_of_prefix hpast hfirst with hearlier | hlater
  · exact absurd (Fleet.mem_of_moment hearlier) hlate
  · rcases List.prefix_concat_iff.1 hlater with hsame | hbehind
    · rw [hsame] at hlate
      exact absurd (Fleet.mem_of_moment (List.prefix_refl _)) hlate
    · exact hbehind

/-- The task holds what it held when it was claimed, up to the first report that is not turned away,
and the results from then on. -/
theorem Executes.stored (hexecutes : Executes service polls i task execution first rest)
    {arrivals : List (Arrival ι)} (hfirst : (Fleet.run service polls first).arrivals <+: arrivals)
    (harrivals : arrivals <+:
      (Fleet.run service polls (first ++ .execute i execution :: rest)).arrivals) :
    ((service.after (arrivals.map Arrival.event)).tasks.findById? task.id =
        some (execution.recordedOn task) ∧ Reported service arrivals i task.id execution) ∨
    ((service.after (arrivals.map Arrival.event)).tasks.findById? task.id = some task ∧
      ¬ Reported service arrivals i task.id execution) := by
  obtain ⟨front, hfront, hgiven, -, hrunning, -⟩ := hexecutes.given
  obtain ⟨later, rfl⟩ := hfront.trans hfirst
  have hupdated : ∀ middle event, middle ++ [event] <+: later.map Arrival.event →
      Updates service (front.map Arrival.event ++ middle) event task.id →
        (∃ past, past ++ [⟨some i, event⟩] <+: front ++ later ∧
          past.map Arrival.event = front.map Arrival.event ++ middle) ∧
        ∃ occasion signed, event = .request occasion
          ((TaskCall.report task.id execution.report).request signed) := by
    intro middle event hpart hupdates
    obtain ⟨past, poll?, hpast, hsame⟩ := Fleet.arrival_of_event front hpart
    rw [← hsame] at hupdates
    obtain ⟨rfl, hreport⟩ := hexecutes.reports_of_updates (hpast.trans harrivals) hupdates
    exact ⟨⟨past, hpast, hsame⟩, hreport⟩
  rw [List.map_append]
  rcases recorded_iff_reported hexecutes.id hexecutes.fits hgiven hrunning
      fun middle event hpart hupdates => (hupdated middle event hpart hupdates).2 with
    ⟨hrecorded, middle, event, hpart, hreports, hupdates⟩ | ⟨hkept, hnone⟩
  · obtain ⟨⟨past, hpast, hsame⟩, -⟩ := hupdated middle event hpart hupdates
    exact Or.inl ⟨hrecorded, past, event, hpast, hsame.symm ▸ hreports⟩
  · refine Or.inr ⟨hkept, ?_⟩
    rintro ⟨past, event, hpast, hreports⟩
    obtain ⟨part, rfl⟩ := hfront.trans (hexecutes.past_of_reports hreports hpast hfirst)
    rw [List.append_assoc, List.prefix_append_right_inj] at hpast
    have hpart := hpast.map Arrival.event
    rw [List.map_append] at hpart hreports
    exact hnone _ event hpart hreports

theorem Executes.recorded (hexecutes : Executes service polls i task execution first rest)
    (hreported : Reported service (Fleet.run service polls
      (first ++ .execute i execution :: rest)).arrivals i task.id execution) :
    (service.after (Fleet.run service polls
      (first ++ .execute i execution :: rest)).events).tasks.findById? task.id =
        some (execution.recordedOn task) := by
  rcases hexecutes.stored (Fleet.run_arrivals service polls first _) (List.prefix_refl _) with
    ⟨hrecorded, -⟩ | ⟨-, hnone⟩
  · exact hrecorded
  · exact absurd hreported hnone

/-- What becomes of the results that a poll reports. -/
structure RecordedOnce (service : Service) (polls : ι → Poll) (fleet : Fleet ι) (i : ι)
    (task : Task) (execution : Execution) : Prop where
  /-- The task that was executed was running for the agent of the poll. -/
  claimed : task.status = .running ∧ task.claimedBy = some (polls i).agent.agentId
  /-- The poll sends nothing but claims and reports on these very results. -/
  sent : ∀ request, ⟨i, request⟩ ∈ fleet.sent →
    IsClaim request ∨ ∃ signed, request = (TaskCall.report task.id execution.report).request signed
  /-- The task is as it was claimed until a report on it is not turned away. -/
  kept : ¬ Reported service fleet.arrivals i task.id execution →
    (service.after fleet.events).tasks.findById? task.id = some task
  /-- From then on it holds the results. -/
  recorded : Reported service fleet.arrivals i task.id execution →
    (service.after fleet.events).tasks.findById? task.id = some (execution.recordedOn task)
  /-- Once it has held them, it holds them. -/
  final : ∀ before, before <+: fleet.events →
    (service.after before).tasks.findById? task.id = some (execution.recordedOn task) →
    (service.after fleet.events).tasks.findById? task.id = some (execution.recordedOn task)

/-- Whatever gets lost, comes late or is repeated, the results of a command are put into its task once
and as a whole, at the first report that the control plane does not turn away. -/
theorem results_recorded_once
    (hexecutes : Executes service polls i task execution first rest) :
    RecordedOnce service polls
      (Fleet.run service polls (first ++ .execute i execution :: rest)) i task execution := by
  obtain ⟨-, -, -, -, hclaimed⟩ := hexecutes.given
  refine ⟨hclaimed, (Fleet.run_reporting hexecutes.stage rest).sent, ?_, hexecutes.recorded, ?_⟩
  · intro hnone
    rcases hexecutes.stored (Fleet.run_arrivals service polls first _) (List.prefix_refl _) with
      ⟨-, hreported⟩ | ⟨hkept, -⟩
    · exact absurd hreported hnone
    · exact hkept
  · rintro before ⟨later, hlater⟩ hrecorded
    rw [← hlater]
    obtain ⟨found, hfound, hbecomes⟩ := service.after_becomes before later hrecorded
    rw [hfound, hbecomes.final execution.status_isTerminal]

end Run

def soleExecution : Execution := ⟨some 0, "a\n", ""⟩

/-- The answer to the first report of the sole poll is lost, and the poll reports again. -/
def lostAnswer : List (FleetEvent Unit) :=
  [.send () 1 ⟨[], 3⟩, .arrive 1 soleOccasion, .lose () ⟨"timed out", true⟩, .resume (),
    .send () 2 ⟨[], 5⟩, .arrive 2 soleOccasion]

theorem sole_executes :
    Executes soleConfig.service solePolls () soleTask soleExecution soleClaim lostAnswer := by
  refine ⟨fun _ => ⟨⟨[], 0⟩, rfl⟩, sole_claimed.stage, taskIdForm_fresh _, ?_, ?_⟩
  · intro code hcode
    cases hcode
    decide
  · intro before poll? event hmoment hupdates
    cases poll? with
    | some j => rfl
    | none =>
        have hother := Fleet.run_others (Fleet.mem_of_moment hmoment)
        simp only [soleClaim, soleStart, firstEvents, lostAnswer, List.map_cons, List.map_nil,
          List.cons_append, List.nil_append, List.mem_cons, FleetEvent.other.injEq, reduceCtorEq,
          List.not_mem_nil, or_false] at hother
        rcases hother with rfl | rfl
        · exact absurd hupdates.method (by decide)
        · exact absurd hupdates.method (by decide)

/-- The sole poll reports twice. -/
theorem results_recorded_once_of_retry :
    let fleet := Fleet.run soleConfig.service solePolls
      (soleClaim ++ .execute () soleExecution :: lostAnswer)
    Executes soleConfig.service solePolls () soleTask soleExecution soleClaim lostAnswer ∧
      RecordedOnce soleConfig.service solePolls fleet () soleTask soleExecution :=
  ⟨sole_executes, results_recorded_once sole_executes⟩

end Muster.Agent
