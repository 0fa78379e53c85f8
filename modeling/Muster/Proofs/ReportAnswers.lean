import Muster.Proofs.FleetReports
/-!
What a poll makes of the answers to its reports. The answer to the report that put the results into
the task ends the poll well. Where that answer is lost, a later report is refused, because the task is
over by then, and the poll ends with this refusal although its results are on file.
-/
namespace Muster.Agent

open Auth Bytes ControlPlane Http Json Store Time

theorem TaskCall.read_error (call : TaskCall) (error : ApiError) :
    call.read (Reply.ofResponse error.response) =
      .error (.rejected error.status error.message) := by
  have hstatus : (Reply.ofResponse error.response).status = error.status := rfl
  have hcontent : error.status ≠ 204 := by
    rw [ApiError.status]
    cases error.kind <;> decide
  have hfailure : isSuccess error.status = false := isSuccess_error error
  have htext : (Reply.ofResponse error.response).errorText? = some error.message := by
    have hbody : (Reply.ofResponse error.response).body =
        Text.toUtf8 (ErrorBody.shape.codec.writeText ⟨error.message⟩) := rfl
    rw [Reply.errorText?, hbody, (ErrorBody.restores ⟨error.message⟩).readOctets]
  rw [read, if_neg fun hclaim => hcontent (hstatus ▸ hclaim.2), Reply.decode, hstatus, hfailure,
    htext]
  rfl

theorem Execution.recordedOn_fits {execution : Execution} {task : Task}
    (hreport : execution.report.Fits) (htask : Task.Fits task) :
    Task.Fits (execution.recordedOn task) :=
  ⟨htask.priority, hreport⟩

variable {ι : Type} [DecidableEq ι] {service : Service} {polls : ι → Poll} {i : ι}

theorem Fleet.Moves.over {fleet next : Fleet ι} {event : FleetEvent ι}
    (hmoves : fleet.Moves service polls event next)
    {result : Except ClientError Bool} (hover : fleet.stage i = .over result) :
    next.stage i = .over result := by
  cases hmoves with
  | stays | sends | arrives | happens => exact hover
  | goesOn event j reply waiting executed =>
      change Function.update fleet.stage j _ i = _
      by_cases hmover : i = j
      · subst hmover
        rw [Function.update_self, hover]
        cases reply <;> rfl
      · rw [Function.update_of_ne hmover, hover]

theorem Fleet.run_over {events : List (FleetEvent ι)} {event : FleetEvent ι}
    {result : Except ClientError Bool}
    (hover : (Fleet.run service polls (events ++ [event])).stage i = .over result)
    (later : List (FleetEvent ι)) :
    (Fleet.run service polls (events ++ event :: later)).stage i = .over result := by
  induction later using List.reverseRecOn with
  | nil => exact hover
  | append_singleton later last ih =>
      rw [← List.cons_append, ← List.append_assoc, run_snoc]
      exact (step_moves service polls _ last).over ih

/-- A poll that hears the answer to its report goes on with what it reads there. -/
theorem Fleet.step_answer (service : Service) (polls : ι → Poll) {fleet : Fleet ι} {number : Nat}
    {request : Request} {reply : Reply}
    (hanswer : fleet.answers[number]? = some ⟨i, request, reply⟩)
    (hwaits : fleet.waiting i = some request) {id : String} {update : UpdateTaskRequest}
    {failures : Nat} (hstage : fleet.stage i = .report id update failures) :
    (fleet.step service polls (.answer number)).stage i =
      (PollStage.report id update failures).next (polls i).policy
        (.answered ((TaskCall.report id update).read reply)) := by
  simp only [step, hanswer, hwaits, ↓reduceIte, receive, hstage, PollStage.call?]
  exact Function.update_self ..

section Answer

variable {task : Task} {execution : Execution} {first rest : List (FleetEvent ι)} {number : Nat}
  {request : Request} {reply : Reply}

/-- An answer that a poll hears while it reports is the one to a report that came in at some
moment. -/
theorem Executes.answered (hexecutes : Executes service polls i task execution first rest)
    {fleet : Fleet ι}
    (hfleet : fleet = Fleet.run service polls (first ++ .execute i execution :: rest))
    (hanswer : fleet.answers[number]? = some ⟨i, request, reply⟩)
    (hwaits : fleet.waiting i = some request) :
    ∃ before occasion signed failures,
      request = (TaskCall.report task.id execution.report).request signed ∧
      before ++ [⟨some i, .request occasion request⟩] <+: fleet.arrivals ∧
      reply = Reply.ofResponse (service.handle occasion request
        (service.after (before.map Arrival.event))).1 ∧
      fleet.stage i = .report task.id execution.report failures := by
  have horderly : fleet.Orderly service polls := hfleet ▸ Fleet.run_orderly hexecutes.ids _
  have hreporting : fleet.Reporting i task.id execution.report :=
    hfleet ▸ Fleet.run_reporting hexecutes.stage rest
  obtain ⟨before, occasion, hmoment, hreply⟩ :=
    horderly.answered _ (List.mem_of_getElem? hanswer)
  obtain ⟨call, signed, hcall, hrequest, -⟩ := horderly.waiting i request hwaits
  have hstage := hreporting.stage
  cases hnow : fleet.stage i with
  | claim | execute =>
      rw [hnow] at hstage
      cases hstage
  | pause | «over» =>
      rw [hnow] at hcall
      cases hcall
  | report id update failures =>
      rw [hnow] at hcall hstage
      obtain ⟨rfl, rfl⟩ := hstage
      cases hcall
      exact ⟨before, occasion, signed, failures, hrequest, hmoment, hreply, rfl⟩

/-- What a poll reads in the answer to a report that came in at some moment: why it was turned away,
or the task with the results if it was the first one not to be, or else that the task was over. -/
theorem Executes.read_report (hexecutes : Executes service polls i task execution first rest)
    {before : List (Arrival ι)} {occasion : Occasion} {signed : SignedHeaders}
    (hrequest : request = (TaskCall.report task.id execution.report).request signed)
    (hmoment : before ++ [⟨some i, .request occasion request⟩] <+:
      (Fleet.run service polls (first ++ .execute i execution :: rest)).arrivals)
    (hreply : reply = Reply.ofResponse (service.handle occasion request
      (service.after (before.map Arrival.event))).1) :
    let passage := (service.passage occasion request (service.after (before.map Arrival.event))).1
    let updates := Updates service (before.map Arrival.event) (.request occasion request) task.id
    let content := (TaskCall.report task.id execution.report).read reply
    (∃ error, passage = .denied error ∧ content = .error (.rejected 401 error.message)) ∨
    (passage = .handled (.tasks (.update task.id)) ∧ updates ∧
      ¬ Reported service before i task.id execution ∧
      content = .ok (some (execution.recordedOn task))) ∨
    (passage = .handled (.tasks (.update task.id)) ∧ ¬ updates ∧
      Reported service before i task.id execution ∧ content = .error (.rejected 409
        (TaskError.invalidTransition task.id execution.status execution.status).message)) := by
  intro passage updates content
  subst hrequest hreply
  rcases passage_of_report execution.report signed service occasion
    (service.after (before.map Arrival.event)) hexecutes.id with ⟨error, hdenied⟩ | hpassage
  · have hread := TaskCall.read_error (.report task.id execution.report) (ApiError.ofAuth error)
    rw [← handle_of_denied _ signed service occasion _ hdenied] at hread
    exact Or.inl ⟨error, hdenied, hread⟩
  · right
    have hreports : Reports service (before.map Arrival.event) (.request occasion
        ((TaskCall.report task.id execution.report).request signed)) task.id execution := by
      refine ⟨occasion, signed, rfl, ?_⟩
      intro error
      rw [hpassage]
      exact Passage.noConfusion
    have hfirst := hexecutes.past_of_reports hreports hmoment
      (Fleet.run_arrivals service polls first _)
    have hbefore := (List.prefix_append before _).trans hmoment
    have hupdates := updates_iff_of_report hexecutes.id hpassage
    obtain ⟨-, -, -, hkeeps, hrunning, -⟩ := hexecutes.given
    rcases hexecutes.stored hfirst hbefore with ⟨hrecorded, hreported⟩ | ⟨hkept, hnone⟩
    · have hresponse := refused_of_report hexecutes.id hexecutes.fits hrecorded
        execution.status_isTerminal hpassage
      have hread := TaskCall.read_error (.report task.id execution.report) (ApiError.ofTask
        (.invalidTransition task.id (execution.recordedOn task).status execution.status))
      rw [hresponse] at hupdates
      rw [← hresponse] at hread
      exact Or.inr ⟨hpassage, fun hdone => Bool.false_ne_true (hupdates.1 hdone), hreported, hread⟩
    · obtain ⟨-, hresponse⟩ := recorded_of_report hexecutes.id hexecutes.fits hkept hrunning hpassage
      have hread := TaskCall.read_task (.report task.id execution.report)
        (Execution.recordedOn_fits hexecutes.fits hkeeps.fits) hkeeps.regular
      rw [hresponse] at hupdates
      rw [← hresponse] at hread
      exact Or.inl ⟨hpassage, hupdates.2 rfl, hnone, hread⟩

/-- What the answer to the report that came in at this moment means for the poll, at the stages behind
it and behind whatever happens later. -/
structure AnswerSettles (service : Service) (policy : Backoff) (i : ι) (task : Task)
    (execution : Execution) (before : List (Arrival ι)) (occasion : Occasion) (request : Request)
    (failures : Nat) (stages : List (FleetEvent ι) → PollStage) : Prop where
  /-- The report that the task was updated by ends the poll well. -/
  applied : Updates service (before.map Arrival.event) (.request occasion request) task.id →
    ∀ later, stages later = .over (.ok true)
  /-- One that was let in but did not update the task came behind that report. It ends the poll with
  the refusal. -/
  refused : (∀ error, (service.passage occasion request
      (service.after (before.map Arrival.event))).1 ≠ .denied error) →
    ¬ Updates service (before.map Arrival.event) (.request occasion request) task.id →
    Reported service before i task.id execution ∧ ∀ later, stages later = .over (.error (.rejected 409
      (TaskError.invalidTransition task.id execution.status execution.status).message))
  /-- One that was turned away counts as a failed attempt. -/
  denied : ∀ error, (service.passage occasion request
      (service.after (before.map Arrival.event))).1 = .denied error →
    stages [] = afterFailure policy task.id execution.report (failures + 1)
      (.rejected 401 error.message)

/-- The answer with this number is the one to a report of the poll that came in at some moment, and
settles what it means there. -/
def AnswerHeard (service : Service) (polls : ι → Poll) (i : ι) (task : Task) (execution : Execution)
    (events : List (FleetEvent ι)) (number : Nat) : Prop :=
  ∃ before occasion request failures,
    before ++ [⟨some i, .request occasion request⟩] <+: (Fleet.run service polls events).arrivals ∧
    (Fleet.run service polls events).answers[number]? = some ⟨i, request, Reply.ofResponse
      (service.handle occasion request (service.after (before.map Arrival.event))).1⟩ ∧
    (Fleet.run service polls events).stage i = .report task.id execution.report failures ∧
    AnswerSettles service (polls i).policy i task execution before occasion request failures
      fun later => (Fleet.run service polls (events ++ .answer number :: later)).stage i

/-- A poll that hears the answer to one of its reports is over, well or with the refusal of a report
behind the first one, or makes another attempt if it was turned away. -/
theorem report_answer_heard (hexecutes : Executes service polls i task execution first rest)
    (hanswer : (Fleet.run service polls (first ++ .execute i execution :: rest)).answers[number]? =
      some ⟨i, request, reply⟩)
    (hwaits : (Fleet.run service polls (first ++ .execute i execution :: rest)).waiting i =
      some request) :
    AnswerHeard service polls i task execution (first ++ .execute i execution :: rest) number := by
  obtain ⟨before, occasion, signed, failures, hrequest, hmoment, hreply, hstage⟩ :=
    hexecutes.answered rfl hanswer hwaits
  have hnext := Fleet.step_answer service polls hanswer hwaits hstage
  rw [← Fleet.run_snoc] at hnext
  refine ⟨before, occasion, request, failures, hmoment, hreply ▸ hanswer, hstage, ?_⟩
  rcases hexecutes.read_report hrequest hmoment hreply with
    ⟨error, hdenied, hread⟩ | ⟨hpassage, hupdates, -, hread⟩ | ⟨hpassage, hnot, hreported, hread⟩
  · rw [hread] at hnext
    refine ⟨?_, fun hin => absurd hdenied (hin error), ?_⟩
    · rintro ⟨_, _, segment, hevent, hpassage, -⟩
      cases hevent
      rw [hdenied] at hpassage
      cases hpassage
    · intro other hother
      cases hdenied.symm.trans hother
      exact hnext
  · rw [hread] at hnext
    refine ⟨fun _ => Fleet.run_over hnext, fun _ hnot => absurd hupdates hnot, ?_⟩
    intro error hdenied
    rw [hpassage] at hdenied
    cases hdenied
  · rw [hread] at hnext
    refine ⟨fun hupdates => absurd hupdates hnot, fun _ _ => ⟨hreported, Fleet.run_over hnext⟩, ?_⟩
    intro error hdenied
    rw [hpassage] at hdenied
    cases hdenied

end Answer

/-- A report of the sole poll on its results. -/
def soleReport (now : Int) (source : Entropy) : Request :=
  (TaskCall.report soleTask.id soleExecution.report).request (soleAgent.signedHeaders now source).1

/-- The sole poll waits for the answer to its second report, which has come in behind the first
one. -/
theorem sole_retries :
    let claimed := Fleet.run soleConfig.service solePolls soleClaim
    let fleet := Fleet.run soleConfig.service solePolls
      (soleClaim ++ .execute () soleExecution :: lostAnswer)
    let before := claimed.arrivals ++ [⟨some (), .request soleOccasion (soleReport 1 ⟨[], 3⟩)⟩]
    let second := soleReport 2 ⟨[], 5⟩
    before ++ [⟨some (), .request soleOccasion second⟩] <+: fleet.arrivals ∧
    fleet.waiting () = some second ∧
    fleet.stage () = .report soleTask.id soleExecution.report 1 ∧
    fleet.answers[2]? = some ⟨(), second, Reply.ofResponse (soleConfig.service.handle soleOccasion
      second (soleConfig.service.after (before.map Arrival.event))).1⟩ := by
  intro claimed fleet before second
  obtain ⟨hstage, hwaiting, hsent, hanswers⟩ : claimed.Granted () soleTask := sole_claimed
  have hfleet : fleet = (.execute () soleExecution :: lostAnswer).foldl
      (Fleet.step soleConfig.service solePolls) claimed := List.foldl_append
  rw [hfleet]
  clear_value claimed
  obtain ⟨arrivals, stage, waiting, sent, answers, executed⟩ := claimed
  simp only at hstage hwaiting hsent hanswers
  simp [lostAnswer, Fleet.step, Fleet.receive, Fleet.events, hstage, hwaiting, hsent, hanswers,
    PollStage.call?, PollStage.next, TaskCall.outcome, afterFailure, ClientError.isRetryable,
    Backoff.shouldRetry, Backoff.withMaxAttempts, solePolls, reportPolicy, reportAttempts,
    soleReport, before, second]

/-- The sole poll hears the answer to its second report. -/
theorem report_answer_heard_of_retry :
    let events := soleClaim ++ .execute () soleExecution :: lostAnswer
    Executes soleConfig.service solePolls () soleTask soleExecution soleClaim lostAnswer ∧
      (∃ reply, (Fleet.run soleConfig.service solePolls events).answers[2]? =
        some ⟨(), soleReport 2 ⟨[], 5⟩, reply⟩) ∧
      (Fleet.run soleConfig.service solePolls events).waiting () = some (soleReport 2 ⟨[], 5⟩) ∧
      AnswerHeard soleConfig.service solePolls () soleTask soleExecution events 2 := by
  intro events
  obtain ⟨-, hwaits, -, hanswer⟩ := sole_retries
  exact ⟨sole_executes, ⟨_, hanswer⟩, hwaits, report_answer_heard sole_executes hanswer hwaits⟩

/-- The first report of the sole poll updates the task, and the answer to the second one ends the poll
in an error. -/
theorem lost_answer_ends_in_conflict :
    let events := soleClaim ++ .execute () soleExecution :: lostAnswer
    let fleet := Fleet.run soleConfig.service solePolls events
    Executes soleConfig.service solePolls () soleTask soleExecution soleClaim lostAnswer ∧
      (soleConfig.service.after fleet.events).tasks.findById? soleTask.id =
        some (soleExecution.recordedOn soleTask) ∧
      (∃ reply, fleet.answers[2]? = some ⟨(), soleReport 2 ⟨[], 5⟩, reply⟩) ∧
      fleet.waiting () = some (soleReport 2 ⟨[], 5⟩) ∧
      (Fleet.run soleConfig.service solePolls (events ++ [.answer 2])).stage () =
        .over (.error (.rejected 409
          ("task " ++ soleTask.id ++ " cannot move from completed to completed"))) := by
  intro events fleet
  obtain ⟨hmoment, hwaits, hstage, hanswer⟩ := sole_retries
  have hlet : ∀ signed state, (soleConfig.service.passage soleOccasion
      ((TaskCall.report soleTask.id soleExecution.report).request signed) state).1 =
        .handled (.tasks (.update soleTask.id)) := fun signed state =>
    passage_of_report_unsigned _ signed _ _ state sole_executes.id rfl
  have hreported : Reported soleConfig.service ((Fleet.run soleConfig.service solePolls
      soleClaim).arrivals ++ [⟨some (), .request soleOccasion (soleReport 1 ⟨[], 3⟩)⟩]) ()
        soleTask.id soleExecution := by
    refine ⟨_, _, List.prefix_refl _, soleOccasion, _, rfl, ?_⟩
    intro error
    rw [hlet]
    exact Passage.noConfusion
  have hstored := sole_executes.recorded
    (hreported.mono ((List.prefix_append _ _).trans hmoment))
  refine ⟨sole_executes, hstored, ⟨_, hanswer⟩, hwaits, ?_⟩
  have hnext := Fleet.step_answer soleConfig.service solePolls hanswer hwaits hstage
  rw [← Fleet.run_snoc] at hnext
  have hrequest : soleReport 2 ⟨[], 5⟩ = (TaskCall.report soleTask.id soleExecution.report).request
      (soleAgent.signedHeaders 2 ⟨[], 5⟩).1 := rfl
  rcases sole_executes.read_report hrequest hmoment rfl with
    ⟨error, hdenied, -⟩ | ⟨-, -, hnone, -⟩ | ⟨-, -, -, hread⟩
  · rw [hrequest, hlet] at hdenied
    cases hdenied
  · exact absurd hreported hnone
  · have hmessage : (TaskError.invalidTransition soleTask.id soleExecution.status
        soleExecution.status).message =
          "task " ++ soleTask.id ++ " cannot move from completed to completed" := by
      simp only [TaskError.message, String.append_assoc]
      rfl
    rw [hread, hmessage] at hnext
    exact hnext

end Muster.Agent
