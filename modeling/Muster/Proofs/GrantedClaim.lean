import Muster.Proofs.CreationOrder
import Muster.Proofs.FleetRun
import Muster.Proofs.RegistrationDecision
import Muster.Proofs.ReportRequests
import Muster.Proofs.SignedRequest
/-!
What an agent gets from a control plane that works. A registration that is in order puts its key on
file, and a claim signed with this key is let in, unless it comes at the wrong time or for the second
time. So a poll that hears the answer goes on with the task that the queue has given out.
-/
namespace Muster.Agent

open Auth Bytes ControlPlane Http Json Rsa Store Text Time

section Unsigned

variable {service : Service}

/-- The request by which an agent registers. -/
def registrationCall (request : RegistrationRequest) : Request :=
  requestWith "POST" "/v1/agents/register" []
    (some (RegistrationRequest.shape.codec.writeText request))

/-- A registration that is in order brings its agent into a store without any, and leaves all else. -/
theorem handle_registration {request : RegistrationRequest} (hrequest : WellFormed request)
    (htoken : service.tokens.verify request.tokenId request.tokenKey = true) (occasion : Occasion)
    (state : State) (hagents : state.agents = AgentStore.empty) :
    ∃ agents,
      (service.handle occasion (registrationCall request) state).2 = { state with agents } ∧
      agents.get? occasion.agentId =
        some ((admissionOf request).newRecord occasion.agentId occasion.now) := by
  have hroute : Route.ofTarget? (Target.ofText (registrationCall request).target) =
      some .register := by
    change Route.ofTarget? (Target.ofText "/v1/agents/register") = _
    decide
  have hpassage : service.passage occasion (registrationCall request) state =
      (.handled .register, state.nonces) := Service.passage_of_unguarded hroute rfl occasion state
  have hbody : readBody RegistrationRequest.shape.codec (registrationCall request) = .ok request :=
    readBody_requestWith request.restores _ _ (by decide +kernel)
  refine ⟨_, ?_, get?_register_empty hrequest htoken occasion.agentId occasion.now⟩
  rw [Service.handle_state, hpassage]
  simp only [Passage.serve, Handler.run, Service.registerAgent, hbody, hagents]
  split <;> rfl

/-- A control plane that takes requests about tasks unsigned creates the task that is asked for. -/
theorem handle_creation (hunsigned : service.unsignedTasks = true) {request : CreateTaskRequest}
    (hfits : request.Fits) (signed : SignedHeaders) (occasion : Occasion) (state : State) :
    (service.handle occasion ((TaskCall.create request).request signed) state).2 =
      { state with
        tasks := (createTask TaskStore.repository request occasion.taskId occasion.now
          state.tasks).2 } := by
  have hroute : Route.ofTarget? (Target.ofText ((TaskCall.create request).request signed).target) =
      some .tasks := by
    change Route.ofTarget? (Target.ofText "/v1/tasks") = _
    decide
  have hguards : service.guards .tasks = false := by
    rw [Service.guards, hunsigned, Bool.not_true]
  have hpassage : service.passage occasion ((TaskCall.create request).request signed) state =
      (.handled (.tasks .create), state.nonces) :=
    Service.passage_of_unguarded hroute hguards occasion state
  have hbody : readBody CreateTaskRequest.shape.codec ((TaskCall.create request).request signed) =
      .ok request :=
    readBody_requestWith (CreateTaskRequest.restores hfits) _ _ (announceJson_signed signed)
  rw [Service.handle_state, hpassage]
  simp only [Passage.serve, Handler.run, actOnTasks, hbody]

/-- The first task of all is the one that the first claim of all gets. -/
theorem claimTask_created {request : CreateTaskRequest} (hvalid : validateCreate request = .ok ())
    (id agentId : String) (now : Instant) :
    (claimTask TaskStore.repository agentId
      (createTask TaskStore.repository request id now TaskStore.empty).2).1 =
        .ok (some (Task.claimedFor (newTask request id now) agentId)) := by
  have hstore : (createTask TaskStore.repository request id now TaskStore.empty).2 =
      (TaskStore.empty.create (newTask request id now)).2 := by
    simp only [createTask, hvalid]
    rfl
  obtain ⟨-, entries, hlists, htasks⟩ :=
    TaskStore.lists_empty.step (.create (newTask request id now))
  have hnext : nextPending? (tasksOf entries) = some (newTask request id now) := by
    rw [htasks]
    simp [StoreCall.onList, tasksOf, nextPending?, newTask]
  obtain ⟨hclaim, -⟩ := hlists.step (.claim agentId)
  simp only [StoreCall.perform, StoreCall.onList, hnext] at hclaim
  rw [hstore]
  exact congrArg Except.ok (Except.ok.inj hclaim)

end Unsigned

section Claim

variable {service : Service} {occasion : Occasion} {state : State}

/-- A genuine claim that comes at the right time with a nonce of its own is let in. -/
theorem passage_of_genuine_claim {signed : SignedHeaders} (hsendable : signed.Sendable)
    (hgenuine : signed.Genuine state.agents)
    (hage : distance64 occasion.now.seconds signed.timestamp ≤ service.window)
    (hnonce : state.nonces.isFresh signed.agentId signed.nonce occasion.now.seconds = true) :
    (service.passage occasion (TaskCall.claim.request signed) state).1 =
      .handled (.claim signed.agentId) := by
  have hread : SignedHeaders.ofHeaders (TaskCall.claim.request signed).headers = .ok signed := by
    have halone := hsendable.ofHeaders (fun field hfield => absurd hfield List.not_mem_nil) []
    rw [List.nil_append, List.append_nil] at halone
    exact halone
  have hanswer := hgenuine.answer service.window occasion.now.seconds state.nonces
  rw [if_neg (by omega), if_pos hnonce] at hanswer
  rw [service.passage_of_claim occasion state (isClaim_request signed), Service.gate, hread]
  simp only [hanswer, Except.map]
  rfl

/-- A claim that is let in is answered with the task that the queue gives. -/
theorem read_claim_of_handled {signed : SignedHeaders} {agentId : String}
    (hpassage : (service.passage occasion (TaskCall.claim.request signed) state).1 =
      .handled (.claim agentId)) {task : Task} (hfits : Task.Fits task)
    (hregular : task.createdAt.IsRegular)
    (htask : (claimTask TaskStore.repository agentId state.tasks).1 = .ok (some task)) :
    TaskCall.claim.read (Reply.ofResponse (service.handle occasion (TaskCall.claim.request signed)
      state).1) = .ok (some task) := by
  have hhead : (TaskCall.claim.request signed).method ≠ "HEAD" := by
    change "POST" ≠ "HEAD"
    decide
  have hresponse : (service.handle occasion (TaskCall.claim.request signed) state).1 =
      valueResponse 200 Task.shape.codec task := by
    rw [Service.handle_eq, hpassage]
    simp only [Passage.serve, Handler.run, claimFor, htask, if_neg hhead]
    rfl
  rw [hresponse, TaskCall.read_task _ hfits hregular]

/-- An agent whose key is on file gets the task that the queue gives, if its claim comes at the right
time with a nonce of its own. -/
theorem Signer.claim_granted {signer : Signer} (hid : FieldText signer.agentId)
    (hmatches : signer.key.Matches) (hbits : HoldsSalt signer.key.publicKey.bits)
    {record : AgentRecord} (hrecord : state.agents.get? signer.agentId = some record)
    (hkey : PublicKey.decode record.publicKey = .ok signer.key.publicKey) {now : Int}
    (hnow : bounds64.holds now = true) (source : Entropy)
    (hage : distance64 occasion.now.seconds now ≤ service.window)
    (hnonce : state.nonces.isFresh signer.agentId (freshNonce source).1 occasion.now.seconds = true)
    {task : Task} (hfits : Task.Fits task) (hregular : task.createdAt.IsRegular)
    (htask : (claimTask TaskStore.repository signer.agentId state.tasks).1 = .ok (some task)) :
    TaskCall.claim.read (Reply.ofResponse (service.handle occasion
      (TaskCall.claim.request (signer.signedHeaders now source).1) state).1) = .ok (some task) := by
  have hsalt : ((freshNonce source).2.octets saltSize).1.length = saltSize :=
    Entropy.length_octets _ _
  have hsendable : (signer.signedHeaders now source).1.Sendable :=
    Signer.sendable hid hmatches hbits hsalt hnow (fieldText_simpleText (Uuid.length_fresh source))
  have hgenuine : (signer.signedHeaders now source).1.Genuine state.agents :=
    Signer.genuine hmatches hbits hsalt hrecord hkey now _
  exact read_claim_of_handled (passage_of_genuine_claim hsendable hgenuine hage hnonce) hfits hregular
    htask

end Claim

section First

variable {service : Service} {creation : CreateTaskRequest} {registration : RegistrationRequest}

/-- How a control plane comes to its first task and its first agent. -/
def firstEvents (occasion : Occasion) (creation : CreateTaskRequest) (creator : SignedHeaders)
    (registration : RegistrationRequest) : List ServerEvent :=
  [.request occasion ((TaskCall.create creation).request creator),
    .request occasion (registrationCall registration)]

theorem Signer.first_claim_granted (hunsigned : service.unsignedTasks = true)
    (hvalid : validateCreate creation = .ok ()) (hfits : creation.Fits) (creator : SignedHeaders)
    (hregistration : WellFormed registration)
    (htoken : service.tokens.verify registration.tokenId registration.tokenKey = true)
    {signer : Signer} (hid : FieldText signer.agentId) (hmatches : signer.key.Matches)
    (hbits : HoldsSalt signer.key.publicKey.bits)
    (hkey : PublicKey.decode (trim registration.publicKey) = .ok signer.key.publicKey)
    (first : ClockTime) (taskId : String) {occasion : Occasion} {now : Int}
    (hnow : bounds64.holds now = true)
    (hage : distance64 occasion.now.seconds now ≤ service.window) (source : Entropy) :
    TaskCall.claim.read (Reply.ofResponse (service.handle occasion
      (TaskCall.claim.request (signer.signedHeaders now source).1) (service.after
        (firstEvents ⟨first, signer.agentId, taskId⟩ creation creator registration))).1) =
      .ok (some (Task.claimedFor (newTask creation taskId first) signer.agentId)) := by
  have hcreated := handle_creation hunsigned hfits creator ⟨first, signer.agentId, taskId⟩ State.empty
  obtain ⟨agents, hregistered, hrecord⟩ := handle_registration hregistration htoken
    ⟨first, signer.agentId, taskId⟩ _ (congrArg State.agents hcreated)
  have hstate : service.after
      (firstEvents ⟨first, signer.agentId, taskId⟩ creation creator registration) =
        { State.empty with
          agents, tasks := (createTask TaskStore.repository creation taskId first
            TaskStore.empty).2 } := by
    rw [hcreated] at hregistered
    simp only [firstEvents, Service.after, List.foldl_cons, List.foldl_nil, Service.step, hcreated,
      hregistered]
    rfl
  have htaskFits :
      Task.Fits (Task.claimedFor (newTask creation taskId first) signer.agentId) := by
    refine ⟨hfits, ?_⟩
    intro code hcode
    cases hcode
  have htask := claimTask_created hvalid taskId signer.agentId first
  have hstored : trim registration.publicKey =
      ((admissionOf registration).newRecord signer.agentId first).publicKey := rfl
  rw [hstored] at hkey
  rw [hstate]
  exact signer.claim_granted hid hmatches hbits hrecord hkey hnow source hage
    (NonceCache.isFresh_empty _ _ _) htaskFits first.regular htask

variable {ι : Type} [DecidableEq ι]

/-- What others do moves no poll. -/
theorem Fleet.run_map_other (service : Service) (polls : ι → Poll) (events : List ServerEvent) :
    Fleet.run service polls (events.map .other) =
      { Fleet.start with arrivals := events.map (Arrival.mk none) } := by
  induction events using List.reverseRecOn with
  | nil => rfl
  | append_singleton events event ih =>
      rw [List.map_append, List.map_singleton, run_snoc, ih, List.map_append]
      rfl

/-- The poll is to execute the task, and nothing but its claim has been sent and answered. -/
structure Fleet.Granted (fleet : Fleet ι) (i : ι) (task : Task) : Prop where
  stage : fleet.stage i = .execute task
  waiting : fleet.waiting i = none
  sent : fleet.sent.length = 1
  answers : fleet.answers.length = 1

theorem Fleet.run_claim {polls : ι → Poll} {i : ι} {before : List ServerEvent} {now : Int}
    {source : Entropy} {occasion : Occasion} {task : Task}
    (hread : TaskCall.claim.read (Reply.ofResponse (service.handle occasion
      (TaskCall.claim.request ((polls i).agent.signedHeaders now source).1)
        (service.after before)).1) = .ok (some task)) :
    (Fleet.run service polls
      (before.map .other ++ [.send i now source, .arrive 0 occasion, .answer 0])).Granted i task := by
  have hevents : (before.map (Arrival.mk (none : Option ι))).map Arrival.event = before := by
    rw [List.map_map]
    exact List.map_id before
  have hrun : Fleet.run service polls
      (before.map .other ++ [.send i now source, .arrive 0 occasion, .answer 0]) =
        [.send i now source, .arrive 0 occasion, .answer 0].foldl (Fleet.step service polls)
          (Fleet.run service polls (before.map .other)) := List.foldl_append
  rw [hrun, run_map_other]
  constructor <;> simp [Fleet.step, Fleet.receive, Fleet.events, Fleet.start, PollStage.call?,
    hevents, hread, PollStage.next, TaskCall.outcome]

end First

/-- A control plane for one agent, which takes requests about tasks unsigned. -/
def soleConfig : ControlPlane.Config where
  listenAddress := ⟨.v4 (.replicate 4 0), 8080, 0⟩
  tokens := [⟨"tok", "secret"⟩]
  unsignedTasks := true

def soleAgent : Signer :=
  ⟨(freshAgentId ⟨[], 0⟩).1, longKey⟩

def solePolls : Unit → Poll :=
  fun _ => ⟨soleAgent, reportPolicy⟩

def soleOccasion : Occasion :=
  ⟨.epoch, soleAgent.agentId, (freshTaskId ⟨[], 0⟩).1⟩

/-- There is a task, and the agent registers. -/
def soleStart : List ServerEvent :=
  firstEvents soleOccasion ⟨"ls", 0⟩ (soleAgent.signedHeaders 0 ⟨[], 1⟩).1
    ⟨"host", "tok", "secret", longKey.publicKey.encode, rsaKeyType, []⟩

def soleClaim : List (FleetEvent Unit) :=
  soleStart.map .other ++ [.send () 0 ⟨[], 2⟩, .arrive 0 soleOccasion, .answer 0]

/-- The task as the agent has claimed it. -/
def soleTask : Task :=
  Task.claimedFor (newTask ⟨"ls", 0⟩ (freshTaskId ⟨[], 0⟩).1 Instant.epoch) soleAgent.agentId

theorem sole_answered :
    TaskCall.claim.read (Reply.ofResponse (soleConfig.service.handle soleOccasion
      (TaskCall.claim.request (soleAgent.signedHeaders 0 ⟨[], 2⟩).1)
        (soleConfig.service.after soleStart)).1) = .ok (some soleTask) := by
  have hfits : (⟨"ls", 0⟩ : CreateTaskRequest).Fits := by
    change bounds64.holds 0 = true
    decide
  have hregistration : WellFormed
      ⟨"host", "tok", "secret", longKey.publicKey.encode, rsaKeyType, []⟩ :=
    ⟨by decide, by decide, by decide, by decide, rfl,
      ⟨longKey.publicKey.encode_ne_empty, _, longKey.publicKey.decode_encode⟩, by simp⟩
  have hkey : PublicKey.decode (trim longKey.publicKey.encode) = .ok longKey.publicKey := by
    rw [longKey.publicKey.trim_encode, longKey.publicKey.decode_encode]
  have hid : IssuedAgentId soleAgent.agentId := ⟨⟨[], 0⟩, rfl⟩
  exact Signer.first_claim_granted rfl (by decide) hfits _ hregistration
    (BootstrapTokens.verify_ofTokens [] _) hid.fieldText longKey_matches longKey_holdsSalt hkey
    .epoch _ (by decide) (by decide) _

theorem sole_claimed : (Fleet.run soleConfig.service solePolls soleClaim).Granted () soleTask :=
  Fleet.run_claim sole_answered

end Muster.Agent
