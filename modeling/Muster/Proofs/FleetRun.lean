import Mathlib.Logic.Function.Basic
import Muster.Agent.Poll
import Muster.ControlPlane.Program
import Muster.Proofs.ClaimRequests
/-!
A fleet of agents that poll one control plane over a network which may delay, lose and repeat all that
is sent. A request once sent can arrive at any later time, any number of times or never, and the same
goes for the answers to it. Still no task is executed twice, since it leaves the pending ones at one
arrival, and the answer to that arrival is for one poll.
-/
namespace Muster.Agent

open Auth Bytes ControlPlane Http Store Time

/-- A poll of the fleet: the agent that makes it, and the policy for its reports. -/
structure Poll where
  agent : Signer
  policy : Backoff

/-- A request that a poll has sent. -/
structure Sent (ι : Type) where
  poll : ι
  request : Request

/-- What the control plane has answered to a request of a poll. -/
structure Answer (ι : Type) where
  poll : ι
  request : Request
  reply : Reply

/-- What has happened at the control plane, and the poll that it is for, if it is for one. -/
structure Arrival (ι : Type) where
  poll? : Option ι
  event : ServerEvent

/-- A fleet and its control plane: all that has arrived there, the stage of each poll and the request
that it waits for, all that has been sent and answered so far, and the tasks that have been executed. -/
structure Fleet (ι : Type) where
  arrivals : List (Arrival ι)
  stage : ι → PollStage
  waiting : ι → Option Request
  sent : List (Sent ι)
  answers : List (Answer ι)
  executed : List (ι × Task)

variable {ι : Type}

def Fleet.start : Fleet ι :=
  ⟨[], fun _ => .claim, fun _ => none, [], [], []⟩

def Fleet.events (fleet : Fleet ι) : List ServerEvent :=
  fleet.arrivals.map Arrival.event

/-- What happens next: a poll sends its request, something that was sent arrives, others ask for
something or nonces are swept out, an answer comes back or is given up, a command is run, a wait is
over. -/
inductive FleetEvent (ι : Type)
  | send (poll : ι) (now : Int) (source : Entropy)
  | arrive (number : Nat) (occasion : Occasion)
  | other (event : ServerEvent)
  | answer (number : Nat)
  | lose (poll : ι) (error : SendError)
  | execute (poll : ι) (execution : Execution)
  | resume (poll : ι)

variable [DecidableEq ι]

/-- A poll gets what has become of its request. -/
def Fleet.receive (polls : ι → Poll) (fleet : Fleet ι) (i : ι) (result : Except SendError Reply) :
    Fleet ι :=
  match (fleet.stage i).call? with
  | some (.send call) =>
      { fleet with
        stage := Function.update fleet.stage i
          ((fleet.stage i).next (polls i).policy (.answered (call.outcome result)))
        waiting := Function.update fleet.waiting i none }
  | _ => fleet

/-- The fleet behind an event. What is not possible at the time does not happen. -/
def Fleet.step (service : Service) (polls : ι → Poll) (fleet : Fleet ι) : FleetEvent ι → Fleet ι
  | .send i now source =>
      match fleet.waiting i, (fleet.stage i).call? with
      | none, some (.send call) =>
          let request := call.request ((polls i).agent.signedHeaders now source).1
          { fleet with
            sent := fleet.sent ++ [⟨i, request⟩]
            waiting := Function.update fleet.waiting i (some request) }
      | _, _ => fleet
  | .arrive number occasion =>
      match fleet.sent[number]? with
      | some ⟨i, request⟩ =>
          let response := (service.handle occasion request (service.after fleet.events)).1
          { fleet with
            arrivals := fleet.arrivals ++ [⟨some i, .request occasion request⟩]
            answers := fleet.answers ++ [⟨i, request, Reply.ofResponse response⟩] }
      | none => fleet
  | .other event => { fleet with arrivals := fleet.arrivals ++ [⟨none, event⟩] }
  | .answer number =>
      match fleet.answers[number]? with
      | some ⟨i, request, reply⟩ =>
          if fleet.waiting i = some request then fleet.receive polls i (.ok reply) else fleet
      | none => fleet
  | .lose i error =>
      match fleet.waiting i with
      | some _ => fleet.receive polls i (.error error)
      | none => fleet
  | .execute i execution =>
      match fleet.stage i with
      | .execute task =>
          { fleet with
            stage := Function.update fleet.stage i
              ((PollStage.execute task).next (polls i).policy (.executed execution))
            executed := fleet.executed ++ [(i, task)] }
      | _ => fleet
  | .resume i =>
      match fleet.stage i with
      | .pause id update failures =>
          { fleet with
            stage := Function.update fleet.stage i
              ((PollStage.pause id update failures).next (polls i).policy .resumed) }
      | _ => fleet

def Fleet.run (service : Service) (polls : ι → Poll) (events : List (FleetEvent ι)) : Fleet ι :=
  events.foldl (Fleet.step service polls) Fleet.start

theorem Fleet.run_snoc (service : Service) (polls : ι → Poll) (events : List (FleetEvent ι))
    (event : FleetEvent ι) : Fleet.run service polls (events ++ [event]) =
      (Fleet.run service polls events).step service polls event := by
  simp only [run, List.foldl_append, List.foldl_cons, List.foldl_nil]

/-- A stage from which no task is executed any more. -/
def Spent : PollStage → Prop
  | .claim | .execute _ => False
  | .report _ _ _ | .pause _ _ _ | .over _ => True

omit [DecidableEq ι] in
theorem Spent.next {stage : PollStage} (hspent : Spent stage) (policy : Backoff)
    (reply : PollReply) : Spent (stage.next policy reply) := by
  cases stage with
  | claim | execute => cases hspent
  | «over» result => cases reply <;> trivial
  | pause id update failures => cases reply <;> trivial
  | report id update failures =>
      cases reply with
      | executed | resumed => trivial
      | answered result =>
          cases result with
          | ok task => trivial
          | error error =>
              simp only [PollStage.next, afterFailure]
              split <;> trivial

/-- Only the answer to a claim leads to a task to execute, and that is the task in the answer. -/
theorem next_eq_execute {stage : PollStage} {policy : Backoff} {call : TaskCall}
    {result : Except ClientError (Option Task)} {task : Task}
    (hcall : stage.call? = some (.send call))
    (hnext : stage.next policy (.answered result) = .execute task) :
    stage = .claim ∧ result = .ok (some task) := by
  cases stage with
  | execute | pause | «over» => cases hcall
  | report id update failures =>
      have hspent : Spent (PollStage.report id update failures) := trivial
      have hlater := hspent.next policy (.answered result)
      rw [hnext] at hlater
      cases hlater
  | claim =>
      cases result with
      | error error => cases hnext
      | ok task? =>
          cases task? with
          | none => cases hnext
          | some found =>
              cases hnext
              exact ⟨rfl, rfl⟩

/-- The control plane has given the task to the agent of this poll, at an arrival for this poll. -/
def Fleet.Claimed (service : Service) (polls : ι → Poll) (fleet : Fleet ι) (i : ι) (task : Task) :
    Prop :=
  ∃ before event, before ++ [⟨some i, event⟩] <+: fleet.arrivals ∧
    service.TakesUp (before.map Arrival.event) event task.id ∧
    (service.after (before.map Arrival.event ++ [event])).tasks.findById? task.id = some task ∧
    task.claimedBy = some (polls i).agent.agentId

/-- What holds of a fleet at every moment. -/
structure Fleet.Orderly (service : Service) (polls : ι → Poll) (fleet : Fleet ι) : Prop where
  answered : ∀ answer ∈ fleet.answers, ∃ before occasion,
    before ++ [⟨some answer.poll, .request occasion answer.request⟩] <+: fleet.arrivals ∧
      answer.reply = Reply.ofResponse (service.handle occasion answer.request
        (service.after (before.map Arrival.event))).1
  waiting : ∀ i request, fleet.waiting i = some request → ∃ call signed,
    (fleet.stage i).call? = some (.send call) ∧ request = call.request signed ∧
      signed.agentId = (polls i).agent.agentId
  claimed : ∀ i task, fleet.stage i = .execute task → fleet.Claimed service polls i task
  executed : ∀ i task, (i, task) ∈ fleet.executed →
    fleet.Claimed service polls i task ∧ Spent (fleet.stage i)
  once : (fleet.executed.map Prod.fst).Nodup

section Step

variable {service : Service} {polls : ι → Poll} {fleet : Fleet ι} {i : ι}

omit [DecidableEq ι] in
theorem Fleet.orderly_start : (Fleet.start : Fleet ι).Orderly service polls := by
  refine ⟨?_, ?_, ?_, ?_, List.nodup_nil⟩
  · intro answer hanswer
    cases hanswer
  · intro i request hwaiting
    cases hwaiting
  · intro i task hstage
    cases hstage
  · intro i task hexecuted
    cases hexecuted

omit [DecidableEq ι] in
theorem Fleet.Claimed.mono {task : Task} (hclaimed : fleet.Claimed service polls i task)
    {next : Fleet ι} (hgrows : fleet.arrivals <+: next.arrivals) :
    next.Claimed service polls i task := by
  obtain ⟨before, event, hmoment, htakes, hstored, hagent⟩ := hclaimed
  exact ⟨before, event, hmoment.trans hgrows, htakes, hstored, hagent⟩

omit [DecidableEq ι] in
theorem Fleet.Orderly.arrived (horderly : fleet.Orderly service polls) (arrival : Arrival ι)
    {answers : List (Answer ι)} (hanswers : ∀ answer ∈ answers, answer ∈ fleet.answers ∨
      ∃ occasion, arrival = ⟨some answer.poll, .request occasion answer.request⟩ ∧
        answer.reply = Reply.ofResponse (service.handle occasion answer.request
          (service.after fleet.events)).1) :
    Fleet.Orderly service polls
      { fleet with arrivals := fleet.arrivals ++ [arrival], answers := answers } := by
  have hgrows : fleet.arrivals <+: fleet.arrivals ++ [arrival] := List.prefix_append _ _
  refine ⟨?_, horderly.waiting, ?_, ?_, horderly.once⟩
  · intro answer hanswer
    rcases hanswers answer hanswer with hold | ⟨occasion, rfl, hreply⟩
    · obtain ⟨before, occasion, hmoment, hreply⟩ := horderly.answered answer hold
      exact ⟨before, occasion, hmoment.trans hgrows, hreply⟩
    · exact ⟨fleet.arrivals, occasion, List.prefix_refl _, hreply⟩
  · intro j task hstage
    exact (horderly.claimed j task hstage).mono hgrows
  · intro j task hexecuted
    obtain ⟨hclaimed, hspent⟩ := horderly.executed j task hexecuted
    exact ⟨hclaimed.mono hgrows, hspent⟩

theorem Fleet.Orderly.sending (horderly : fleet.Orderly service polls) {call : TaskCall}
    (hstage : (fleet.stage i).call? = some (.send call)) {signed : SignedHeaders}
    (hsigned : signed.agentId = (polls i).agent.agentId) (sent : List (Sent ι)) :
    Fleet.Orderly service polls { fleet with
      sent := sent, waiting := Function.update fleet.waiting i (some (call.request signed)) } := by
  refine ⟨horderly.answered, ?_, horderly.claimed, horderly.executed, horderly.once⟩
  intro j request hwaiting
  by_cases hmover : j = i
  · subst hmover
    change Function.update _ j _ j = _ at hwaiting
    rw [Function.update_self] at hwaiting
    cases hwaiting
    exact ⟨call, signed, hstage, rfl, hsigned⟩
  · change Function.update _ i _ j = _ at hwaiting
    rw [Function.update_of_ne hmover] at hwaiting
    exact horderly.waiting j request hwaiting

/-- A poll goes on to another stage, in which it waits for nothing yet. -/
theorem Fleet.Orderly.advance (horderly : fleet.Orderly service polls) {stage : PollStage}
    {waiting : ι → Option Request}
    (hwaiting : ∀ j request, waiting j = some request → j ≠ i ∧ fleet.waiting j = some request)
    (hclaimed : ∀ task, stage = .execute task → fleet.Claimed service polls i task)
    (hspent : Spent (fleet.stage i) → Spent stage) :
    Fleet.Orderly service polls
      { fleet with stage := Function.update fleet.stage i stage, waiting := waiting } := by
  refine ⟨horderly.answered, ?_, ?_, ?_, horderly.once⟩
  · intro j request hwaits
    obtain ⟨hother, hbefore⟩ := hwaiting j request hwaits
    obtain ⟨call, signed, hstage, hrequest, hagent⟩ := horderly.waiting j request hbefore
    refine ⟨call, signed, ?_, hrequest, hagent⟩
    change (Function.update fleet.stage i stage j).call? = _
    rw [Function.update_of_ne hother, hstage]
  · intro j task hstage
    change Function.update fleet.stage i stage j = _ at hstage
    by_cases hmover : j = i
    · subst hmover
      rw [Function.update_self] at hstage
      exact hclaimed task hstage
    · rw [Function.update_of_ne hmover] at hstage
      exact horderly.claimed j task hstage
  · intro j task hexecuted
    obtain ⟨hbefore, hpast⟩ := horderly.executed j task hexecuted
    refine ⟨hbefore, ?_⟩
    change Spent (Function.update fleet.stage i stage j)
    by_cases hmover : j = i
    · subst hmover
      rw [Function.update_self]
      exact hspent hpast
    · rw [Function.update_of_ne hmover]
      exact hpast

omit [DecidableEq ι] in
/-- A poll that goes on without having waited leaves what the others wait for. -/
theorem Fleet.Orderly.not_waiting (horderly : fleet.Orderly service polls)
    (hstage : ∀ call, (fleet.stage i).call? ≠ some (.send call)) :
    ∀ j request, fleet.waiting j = some request → j ≠ i ∧ fleet.waiting j = some request := by
  intro j request hwaits
  refine ⟨?_, hwaits⟩
  rintro rfl
  obtain ⟨call, -, hcall, -⟩ := horderly.waiting j request hwaits
  exact hstage call hcall

/-- A poll executes the task that it has claimed, and has not executed any before. -/
theorem Fleet.Orderly.ran (horderly : fleet.Orderly service polls) {task : Task}
    (hstage : fleet.stage i = .execute task) {stage : PollStage} (hspent : Spent stage) :
    Fleet.Orderly service polls { fleet with
      stage := Function.update fleet.stage i stage, executed := fleet.executed ++ [(i, task)] } := by
  have hidle := horderly.not_waiting (by rw [hstage]; simp [PollStage.call?])
  have hlater : ∀ other, stage = .execute other → fleet.Claimed service polls i other := by
    rintro other rfl
    cases hspent
  have hnext := horderly.advance hidle hlater fun _ => hspent
  refine ⟨hnext.answered, hnext.waiting, hnext.claimed, ?_, ?_⟩
  · intro j other hexecuted
    rcases List.mem_append.1 hexecuted with hbefore | hnow
    · exact hnext.executed j other hbefore
    · cases List.mem_singleton.1 hnow
      refine ⟨horderly.claimed i task hstage, ?_⟩
      change Spent (Function.update fleet.stage i stage i)
      rw [Function.update_self]
      exact hspent
  · rw [List.map_append, List.nodup_append]
    refine ⟨horderly.once, List.nodup_singleton _, ?_⟩
    intro j hbefore k hnow
    cases List.mem_singleton.1 hnow
    rintro rfl
    obtain ⟨⟨k, other⟩, hmember, rfl⟩ := List.mem_map.1 hbefore
    obtain ⟨-, hpast⟩ := horderly.executed k other hmember
    rw [hstage] at hpast
    cases hpast

/-- A poll gets what has become of its request. Only the answer to a claim holds a task. -/
theorem Fleet.Orderly.received (horderly : fleet.Orderly service polls)
    {result : Except SendError Reply}
    (hanswer : ∀ task, fleet.stage i = .claim → TaskCall.claim.outcome result = .ok (some task) →
      fleet.Claimed service polls i task) :
    (fleet.receive polls i result).Orderly service polls := by
  simp only [receive]
  cases hcall : (fleet.stage i).call? with
  | none => exact horderly
  | some asked =>
  cases asked with
  | execute command => exact horderly
  | pause attempt => exact horderly
  | send call =>
      refine horderly.advance ?_ ?_ fun hspent => hspent.next _ _
      · intro j request hwaits
        have hother : j ≠ i := by
          rintro rfl
          rw [Function.update_self] at hwaits
          cases hwaits
        rw [Function.update_of_ne hother] at hwaits
        exact ⟨hother, hwaits⟩
      · intro task hnext
        obtain ⟨hstage, houtcome⟩ := next_eq_execute hcall hnext
        rw [hstage] at hcall
        cases hcall
        exact hanswer task hstage houtcome

omit [DecidableEq ι] in
/-- A poll that claims has the task that is in the answer to its request. -/
theorem Fleet.Orderly.claimed_of_answer (hids : ∀ i, IssuedAgentId (polls i).agent.agentId)
    (horderly : fleet.Orderly service polls) {request : Request} {reply : Reply}
    (hanswer : ⟨i, request, reply⟩ ∈ fleet.answers) (hwaits : fleet.waiting i = some request)
    {task : Task} (hstage : fleet.stage i = .claim)
    (houtcome : TaskCall.claim.outcome (.ok reply) = .ok (some task)) :
    fleet.Claimed service polls i task := by
  obtain ⟨before, occasion, hmoment, hreply⟩ := horderly.answered _ hanswer
  obtain ⟨call, signed, hcall, hrequest, hagent⟩ := horderly.waiting i request hwaits
  rw [hstage] at hcall
  cases hcall
  change reply = _ at hreply
  subst hrequest
  rw [hreply] at houtcome
  have hid : FieldText signed.agentId := hagent ▸ (hids i).fieldText
  obtain ⟨htakes, hstored, hclaimant⟩ := claim_answered hid houtcome
  exact ⟨before, _, hmoment, htakes, hstored, hagent ▸ hclaimant⟩

theorem Fleet.Orderly.step (hids : ∀ i, IssuedAgentId (polls i).agent.agentId)
    (horderly : fleet.Orderly service polls) (event : FleetEvent ι) :
    (fleet.step service polls event).Orderly service polls := by
  cases event with
  | send i now source =>
      simp only [Fleet.step]
      split
      · next call _ hstage => exact horderly.sending hstage rfl _
      · exact horderly
  | arrive number occasion =>
      simp only [Fleet.step]
      cases hsent : fleet.sent[number]? with
      | none => exact horderly
      | some sent =>
          apply horderly.arrived
          intro answer hanswer
          rcases List.mem_append.1 hanswer with hold | hnew
          · exact Or.inl hold
          · cases List.mem_singleton.1 hnew
            exact Or.inr ⟨occasion, rfl, rfl⟩
  | other event => exact horderly.arrived ⟨none, event⟩ fun answer hanswer => Or.inl hanswer
  | lose i error =>
      simp only [Fleet.step]
      cases fleet.waiting i with
      | none => exact horderly
      | some request =>
          apply horderly.received
          intro task _ houtcome
          cases houtcome
  | execute i execution =>
      simp only [Fleet.step]
      split
      · next task hstage => exact horderly.ran hstage trivial
      · exact horderly
  | resume i =>
      simp only [Fleet.step]
      split
      · next id update failures hstage =>
          have hcalm : ∀ call, (fleet.stage i).call? ≠ some (.send call) := by
            intro call
            rw [hstage, PollStage.call?]
            simp
          have hlater : ∀ task, PollStage.report id update failures = .execute task →
              fleet.Claimed service polls i task := by
            rintro task ⟨⟩
          exact horderly.advance (horderly.not_waiting hcalm) hlater fun _ => trivial
      · exact horderly
  | answer number =>
      simp only [Fleet.step]
      cases hfound : fleet.answers[number]? with
      | none => exact horderly
      | some answer =>
          obtain ⟨i, request, reply⟩ := answer
          simp only
          split
          · next hwaits =>
              apply horderly.received
              intro task hstage houtcome
              exact horderly.claimed_of_answer hids (List.mem_of_getElem? hfound) hwaits hstage
                houtcome
          · exact horderly

end Step

/-- Does something happen at the control plane? -/
def FleetEvent.reaches : FleetEvent ι → Bool
  | .arrive _ _ | .other _ => true
  | _ => false

/-- All else leaves the control plane alone. -/
theorem Fleet.step_events (service : Service) (polls : ι → Poll) (fleet : Fleet ι)
    {event : FleetEvent ι} (hevent : event.reaches = false) :
    (fleet.step service polls event).events = fleet.events := by
  have hreceive : ∀ i result, (fleet.receive polls i result).events = fleet.events := by
    intro i result
    simp only [Fleet.receive]
    split <;> rfl
  cases event with
  | arrive | other => cases hevent
  | send | execute | resume =>
      simp only [Fleet.step]
      split <;> rfl
  | lose i error =>
      simp only [Fleet.step]
      split
      · exact hreceive i _
      · rfl
  | answer number =>
      simp only [Fleet.step]
      split
      · split
        · exact hreceive _ _
        · rfl
      · rfl

theorem Fleet.run_append_events (service : Service) (polls : ι → Poll)
    (events : List (FleetEvent ι)) {later : List (FleetEvent ι)}
    (hlater : ∀ event ∈ later, event.reaches = false) :
    (Fleet.run service polls (events ++ later)).events = (Fleet.run service polls events).events := by
  induction later using List.reverseRecOn with
  | nil => rw [List.append_nil]
  | append_singleton later event ih =>
      have hbefore := ih fun other hother => hlater other (List.mem_append_left _ hother)
      have hlast := hlater event (List.mem_append_right _ (List.mem_singleton_self event))
      rw [← List.append_assoc, run_snoc, step_events _ _ _ hlast, hbefore]

theorem Fleet.run_orderly {service : Service} {polls : ι → Poll}
    (hids : ∀ i, IssuedAgentId (polls i).agent.agentId) (events : List (FleetEvent ι)) :
    (Fleet.run service polls events).Orderly service polls := by
  induction events using List.reverseRecOn with
  | nil => exact Fleet.orderly_start
  | append_singleton events event ih =>
      rw [run_snoc]
      exact Fleet.Orderly.step hids ih event

/-- What a fleet owes to the tasks of its control plane. -/
structure AtMostOnce (service : Service) (polls : ι → Poll) (fleet : Fleet ι) : Prop where
  /-- No task is executed twice, be it by one poll or by two. -/
  once : (fleet.executed.map fun (_, task) => task.id).Nodup
  /-- A task that is executed is on file for the agent that executes it. -/
  claimant : ∀ i task, (i, task) ∈ fleet.executed →
    ∃ stored, (service.after fleet.events).tasks.findById? task.id = some stored ∧
      stored.claimedBy = some (polls i).agent.agentId
  /-- A request to claim a task moves one task at most, however often it arrives. -/
  claims : ∀ request, IsClaim request → ∀ before₁ occasion₁ id₁ before₂ occasion₂ id₂,
    before₁ ++ [.request occasion₁ request] <+: fleet.events →
    before₂ ++ [.request occasion₂ request] <+: fleet.events →
    service.TakesUp before₁ (.request occasion₁ request) id₁ →
    service.TakesUp before₂ (.request occasion₂ request) id₂ → before₁ = before₂ ∧ id₁ = id₂

omit [DecidableEq ι] in
/-- What had arrived at some moment had happened at the control plane. -/
theorem Fleet.events_of_arrivals {fleet : Fleet ι} {before : List (Arrival ι)} {event : ServerEvent}
    {poll? : Option ι} (hmoment : before ++ [⟨poll?, event⟩] <+: fleet.arrivals) :
    before.map Arrival.event ++ [event] <+: fleet.events := by
  have hmap := hmoment.map Arrival.event
  rw [List.map_append] at hmap
  exact hmap

omit [DecidableEq ι] in
theorem Fleet.Claimed.unique {service : Service} {polls : ι → Poll} {fleet : Fleet ι} {i j : ι}
    {task other : Task} (hfirst : fleet.Claimed service polls i task)
    (hsecond : fleet.Claimed service polls j other) (hid : task.id = other.id) : i = j := by
  obtain ⟨before, event, hmoment, htakes, -, -⟩ := hfirst
  obtain ⟨before', event', hmoment', htakes', -, -⟩ := hsecond
  have hsame : before.map Arrival.event = before'.map Arrival.event :=
    htakes.unique (events_of_arrivals hmoment) (events_of_arrivals hmoment') (hid ▸ htakes')
  have hlength := congrArg List.length hsame
  rw [List.length_map, List.length_map] at hlength
  rcases prefix_trichotomy hmoment hmoment' with hearlier | hlater | ⟨-, hequal⟩
  · have hle := hearlier.length_le
    rw [List.length_append, List.length_singleton] at hle
    omega
  · have hle := hlater.length_le
    rw [List.length_append, List.length_singleton] at hle
    omega
  · exact Option.some.inj (congrArg Arrival.poll? hequal)

/-- Whatever the network does to requests and answers, every task is executed once at most, by the
agent that it is on file for, as long as the clock of the control plane does not go back. -/
theorem executed_at_most_once (config : ControlPlane.Config)
    (hwindow : (config.freshnessWindow : Int) < greatestSecond64) (polls : ι → Poll)
    (hids : ∀ i, IssuedAgentId (polls i).agent.agentId) (events : List (FleetEvent ι))
    (hclock : ClockNeverBack (Fleet.run config.service polls events).events) :
    AtMostOnce config.service polls (Fleet.run config.service polls events) := by
  have horderly : (Fleet.run config.service polls events).Orderly config.service polls :=
    Fleet.run_orderly hids events
  refine ⟨?_, ?_, ?_⟩
  · apply horderly.once.of_map.map_on
    rintro ⟨i, task⟩ hfirst ⟨j, other⟩ hsecond hid
    have hclaimed := (horderly.executed i task hfirst).1
    have hsame : i = j := hclaimed.unique (horderly.executed j other hsecond).1 hid
    exact List.inj_on_of_nodup_map horderly.once hfirst hsecond hsame
  · intro i task hexecuted
    obtain ⟨before, event, hmoment, -, hstored, hclaimant⟩ := (horderly.executed i task hexecuted).1
    obtain ⟨rest, hrest⟩ := Fleet.events_of_arrivals hmoment
    obtain ⟨later, hlater, hbecomes⟩ := config.service.after_becomes _ rest hstored
    rw [hrest] at hlater
    exact ⟨later, hlater, hbecomes.claimedBy _ hclaimant⟩
  · intro request hclaim before₁ occasion₁ id₁ before₂ occasion₂ id₂ hfirst hsecond
    exact claim_takes_up_one rfl hwindow hclock hclaim hfirst hsecond

/-- A key that is just long enough to sign with. -/
def shortKey : Rsa.PrivateKey where
  publicKey := ⟨(Nat.pow 2 264 - 275) * (Nat.pow 2 264 - 1355), 3, by decide +kernel⟩
  secret := (2 * (Nat.pow 2 264 - 276) * (Nat.pow 2 264 - 1356) + 1) / 3
  first := Nat.pow 2 264 - 275
  second := Nat.pow 2 264 - 1355

/-- An agent registers and claims the one task with two polls. The first claim arrives twice, and a
sweep comes in between. -/
theorem executed_at_most_once_of_repetition :
    let id := (freshAgentId ⟨[], 0⟩).1
    let polls : Fin 2 → Poll := fun _ => ⟨⟨id, shortKey⟩, reportPolicy⟩
    let config : ControlPlane.Config := { unsignedTasks := true, tokens := [⟨"tok", "secret"⟩] }
    let occasion : Occasion := ⟨.epoch, id, "t1"⟩
    let register := requestWith "POST" "/v1/agents/register" [] (some
      (RegistrationRequest.shape.codec.writeText
        ⟨"host", "tok", "secret", shortKey.publicKey.encode, "rsa", []⟩))
    let create := requestWith "POST" "/v1/tasks" [] (some
      (CreateTaskRequest.shape.codec.writeText ⟨"ls", 0⟩))
    let arrivals : List (FleetEvent (Fin 2)) := [.other (.request occasion register),
      .other (.request occasion create), .send 0 0 ⟨[], 2⟩, .send 1 0 ⟨[], 4⟩, .arrive 0 occasion,
      .other (.sweep Instant.epoch), .arrive 0 occasion, .arrive 1 occasion]
    let answers : List (FleetEvent (Fin 2)) :=
      [.lose 1 ⟨"timed out", true⟩, .answer 0, .execute 0 ⟨some 0, "", ""⟩]
    AtMostOnce config.service polls (Fleet.run config.service polls (arrivals ++ answers)) := by
  intro id polls config occasion register create arrivals answers
  have hids : ∀ i, IssuedAgentId (polls i).agent.agentId := fun i => ⟨⟨[], 0⟩, rfl⟩
  have hclock : ClockNeverBack (Fleet.run config.service polls arrivals).events := by
    decide +kernel
  have hanswers : ∀ event ∈ answers, event.reaches = false := by decide
  rw [← Fleet.run_append_events config.service polls arrivals hanswers] at hclock
  exact executed_at_most_once config (by decide) polls hids (arrivals ++ answers) hclock

end Muster.Agent
