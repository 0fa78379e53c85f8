import Mathlib.Data.List.TakeWhile
import Muster.Agent.Execution
import Muster.Proofs.ClaimRequests
import Muster.Proofs.FailedRequests
import Muster.Proofs.WireReading
/-!
What the report on a command does in a run of the control plane. Its request is read as it was made:
the path names the task, and the body holds the results. The first one that is not turned away puts
the results into the task, and no later one changes them.
-/
namespace Muster.Http

open Text

theorem pieces_eq_singleton {separator : Char} {text : List Char} (htext : separator ∉ text) :
    pieces separator text = [text] := by
  induction text with
  | nil => rfl
  | cons c rest ih =>
      rw [List.mem_cons, not_or] at htext
      rw [pieces, if_neg (Ne.symm htext.1), ih htext.2]

theorem pieces_append {separator : Char} {front : List Char} (hfront : separator ∉ front)
    (rest : List Char) : pieces separator (front ++ separator :: rest) =
      front :: pieces separator rest := by
  induction front with
  | nil => rw [List.nil_append, pieces, if_pos rfl]
  | cons c front ih =>
      rw [List.mem_cons, not_or] at hfront
      rw [List.cons_append, pieces, if_neg (Ne.symm hfront.1), ih hfront.2]

theorem percentDecode_eq_self {octets : List UInt8} (hoctets : ∀ b ∈ octets, b ≠ 0x25) :
    percentDecode octets = octets := by
  induction octets with
  | nil => rfl
  | cons b rest ih =>
      rw [List.forall_mem_cons] at hoctets
      obtain ⟨hfirst, hrest⟩ := hoctets
      rw [percentDecode, ih hrest]
      intro _ _ _ hpercent _
      exact hfirst hpercent

/-- A text that a path carries unchanged: characters of ASCII that mean nothing in a target. -/
structure PathText (text : String) : Prop where
  nonempty : text ≠ ""
  plain : ∀ c ∈ text.toList, c.toNat ≤ 0x7F ∧ c ∉ ['#', '?', '/', '%']

theorem PathText.percentText? {text : String} (htext : PathText text) :
    percentText? text = some text := by
  have hoctets : ∀ b ∈ toUtf8 text, b ≠ 0x25 := by
    intro b hb
    rw [toUtf8_eq, List.mem_flatMap] at hb
    obtain ⟨c, hc, hb⟩ := hb
    obtain ⟨hascii, hplain⟩ := htext.plain c hc
    rw [utf8EncodeChar_of_le hascii, List.mem_singleton] at hb
    rintro rfl
    have hcode : c.toNat = 0x25 := by
      have hvalue := congrArg UInt8.toNat hb
      rw [UInt8.toNat_ofNat_of_lt' (by change c.toNat < 256; omega)] at hvalue
      exact hvalue.symm
    apply hplain
    rw [← Char.ofNat_toNat c, hcode]
    decide
  have hall : (text.toList.map some).mapM id = some text.toList := by
    rw [List.mapM_map]
    exact (List.mapM_pure (f := id)).trans (congrArg some (List.map_id _))
  rw [Http.percentText?, percentDecode_eq_self hoctets, ofUtf8?, glyphs_toUtf8, hall,
    Option.map_some, String.ofList_toList]

/-- A path that ends in such a text has it as its last segment. -/
theorem PathText.segments? {text : String} (htext : PathText text) :
    (Target.ofText ("/v1/tasks/" ++ text)).segments? = some ["v1", "tasks", text] := by
  have hchars : ("/v1/tasks/" ++ text).toList = "/v1/tasks/".toList ++ text.toList :=
    String.toList_append
  have hfront : "/v1/tasks/".toList.all (fun c => c ≠ '#' && c ≠ '?') = true := by decide
  have hplain : ∀ c ∈ ("/v1/tasks/" ++ text).toList, c ≠ '#' ∧ c ≠ '?' := by
    intro c hc
    rw [hchars, List.mem_append] at hc
    rcases hc with hc | hc
    · have hboth := List.all_eq_true.1 hfront c hc
      simp only [Bool.and_eq_true, decide_eq_true_eq] at hboth
      exact hboth
    · have hnot := (htext.plain c hc).2
      simp only [List.mem_cons, List.not_mem_nil, or_false, not_or] at hnot
      exact ⟨hnot.1, hnot.2.1⟩
  have hshown : ("/v1/tasks/" ++ text).toList.takeWhile (· ≠ '#') = ("/v1/tasks/" ++ text).toList :=
    List.takeWhile_eq_self_iff.2 fun c hc => decide_eq_true (hplain c hc).1
  have hpath : ("/v1/tasks/" ++ text).toList.takeWhile (· ≠ '?') = ("/v1/tasks/" ++ text).toList :=
    List.takeWhile_eq_self_iff.2 fun c hc => decide_eq_true (hplain c hc).2
  have hlast : '/' ∉ text.toList := by
    intro hslash
    exact (htext.plain '/' hslash).2 (by decide)
  have hpieces : pieces '/' ("v1/tasks/".toList ++ text.toList) =
      ["v1".toList, "tasks".toList, text.toList] := by
    have hfirst : "v1/tasks/".toList ++ text.toList =
        "v1".toList ++ '/' :: ("tasks".toList ++ '/' :: text.toList) := rfl
    rw [hfirst, pieces_append (by decide), pieces_append (by decide), pieces_eq_singleton hlast]
  have hstart : (Target.ofText ("/v1/tasks/" ++ text)).path =
      '/' :: ("v1/tasks/".toList ++ text.toList) := by
    rw [Target.ofText, hshown, hpath]
    exact hchars
  rw [Target.segments?, hstart]
  simp only [hpieces, List.map_cons, List.map_nil, String.ofList_toList]

end Muster.Http

namespace Muster.ControlPlane

open Auth Bytes Http Json Store Time

/-- The id is written like those of tasks: 16 octets in groups of digits. -/
def TaskIdForm (id : String) : Prop :=
  ∃ octets : List UInt8, octets.length = 16 ∧ id = Uuid.text octets

theorem taskIdForm_fresh (source : Entropy) : TaskIdForm (freshTaskId source).1 :=
  ⟨(Uuid.fresh source).1, Uuid.length_fresh source, rfl⟩

variable {id : String}

theorem TaskIdForm.pathText (hid : TaskIdForm id) : PathText id := by
  obtain ⟨octets, -, rfl⟩ := hid
  refine ⟨?_, Uuid.text_forall (by decide) (by decide) octets⟩
  intro hempty
  have hchars := congrArg String.toList hempty
  simp [Uuid.text] at hchars

/-- No digit is an `l`. -/
theorem TaskIdForm.ne_claim (hid : TaskIdForm id) : id ≠ "claim" := by
  obtain ⟨octets, -, rfl⟩ := hid
  intro hclaim
  have hnone : ∀ c ∈ (Uuid.text octets).toList, c ≠ 'l' :=
    Uuid.text_forall (by decide) (by decide) octets
  rw [hclaim] at hnone
  exact hnone 'l' (by decide) rfl

/-- The path that ends in the id of a task is the one of this task. -/
theorem TaskIdForm.route (hid : TaskIdForm id) :
    Route.ofTarget? (Target.ofText ("/v1/tasks/" ++ id)) = some (.task id) := by
  have hempty : id.isEmpty = false := by
    rw [← Bool.not_eq_true, String.isEmpty_iff]
    exact hid.pathText.nonempty
  rw [Route.ofTarget?, hid.pathText.segments?, Option.bind_some]
  simp only [Route.ofSegments?, if_neg hid.ne_claim, hempty, Bool.false_eq_true, ↓reduceIte]

end Muster.ControlPlane

namespace Muster.Agent

open Auth ControlPlane Http Json Store Text Time

/-- A request with a JSON text says so, behind the fields of its signature. -/
theorem announceJson_signed (signed : SignedHeaders) : Headers.announceJson
    (signed.toHeaders ++ [("content-type", toUtf8 "application/json")]) = true := by
  have hnames : ∀ name ∈ signatureFields, lowerName name ≠ lowerName "content-type" := by decide
  have hbefore : ∀ field ∈ signed.toHeaders, lowerName field.1 ≠ lowerName "content-type" := by
    intro field hfield
    have hname : field.1 ∈ signed.toHeaders.map Prod.fst := List.mem_map_of_mem hfield
    exact hnames field.1 hname
  rw [Headers.announceJson, Headers.text?, Headers.get?_append_of_none hbefore]
  decide +kernel

/-- The body of a request is read as the value that it was made from. -/
theorem readBody_requestWith {α : Type} {shape : Shape α} {a : α} (ha : shape.codec.Restores a)
    (method target : String) {headers : Headers} (hheaders : Headers.announceJson
      (headers ++ [("content-type", toUtf8 "application/json")]) = true) :
    readBody shape.codec (requestWith method target headers (some (shape.codec.writeText a))) =
      .ok a := by
  simp only [readBody, requestWith, hheaders, ha.readOctets, Bool.not_true, Bool.false_eq_true,
    ↓reduceIte]

theorem TaskCall.read_task (call : TaskCall) {task : Task} (hfits : Task.Fits task)
    (hregular : task.createdAt.IsRegular) :
    call.read (Reply.ofResponse (valueResponse 200 Task.shape.codec task)) = .ok (some task) := by
  have hcontent : (Reply.ofResponse (valueResponse 200 Task.shape.codec task)).status ≠ 204 := by
    change 200 ≠ 204
    decide
  rw [read, if_neg fun hclaim => hcontent hclaim.2,
    Reply.decode_valueResponse (Task.restores hfits hregular) rfl]
  rfl

section Report

variable {id : String} (update : UpdateTaskRequest) (signed : SignedHeaders) (service : Service)
  (occasion : Occasion) (state : State)

/-- A report is turned away at the gate, or gets to be a report on the task in its path. -/
theorem passage_of_report (hid : TaskIdForm id) :
    (∃ error, (service.passage occasion ((TaskCall.report id update).request signed) state).1 =
      .denied error) ∨
    (service.passage occasion ((TaskCall.report id update).request signed) state).1 =
      .handled (.tasks (.update id)) := by
  have hroute : Route.ofTarget? (Target.ofText
      ((TaskCall.report id update).request signed).target) = some (.task id) := hid.route
  have hto : ∀ signer, Passage.to (Route.handler? "PUT" signer (.task id)) =
      .handled (.tasks (.update id)) := fun signer => rfl
  rw [Service.passage, hroute]
  simp only [Service.passageOn]
  split
  · split
    · exact Or.inl ⟨_, rfl⟩
    · next signer _ _ => exact Or.inr (hto signer)
  · exact Or.inr (hto "")

/-- A control plane that takes requests about tasks unsigned turns no report away. -/
theorem passage_of_report_unsigned (hid : TaskIdForm id) (hunsigned : service.unsignedTasks = true) :
    (service.passage occasion ((TaskCall.report id update).request signed) state).1 =
      .handled (.tasks (.update id)) := by
  have hroute : Route.ofTarget? (Target.ofText
      ((TaskCall.report id update).request signed).target) = some (.task id) := hid.route
  have hguards : service.guards (.task id) = false := by
    rw [Service.guards, hunsigned, Bool.not_true]
  rw [Service.passage_of_unguarded hroute hguards]
  rfl

theorem report_not_head : ((TaskCall.report id update).request signed).method ≠ "HEAD" := by
  change "PUT" ≠ "HEAD"
  decide

theorem handle_of_denied {error : AuthError}
    (hdenied : (service.passage occasion ((TaskCall.report id update).request signed) state).1 =
      .denied error) :
    (service.handle occasion ((TaskCall.report id update).request signed) state).1 =
      (ApiError.ofAuth error).response := by
  rw [Service.handle_eq, hdenied]
  simp only [Passage.serve, if_neg (report_not_head update signed)]

/-- A report that is not turned away is answered as the queue answers it. -/
theorem handle_of_report (hid : TaskIdForm id) (hfits : update.Fits)
    (hpassage : (service.passage occasion ((TaskCall.report id update).request signed) state).1 =
      .handled (.tasks (.update id))) :
    (service.handle occasion ((TaskCall.report id update).request signed) state).1 =
        taskResponse 200 (updateTask TaskStore.repository id update state.tasks).1 ∧
      (service.handle occasion ((TaskCall.report id update).request signed) state).2.tasks =
        (updateTask TaskStore.repository id update state.tasks).2 := by
  have hbody : readBody UpdateTaskRequest.shape.codec ((TaskCall.report id update).request signed) =
      .ok update :=
    readBody_requestWith (UpdateTaskRequest.restores hfits) _ _ (announceJson_signed signed)
  rw [Service.handle_eq, hpassage]
  simp only [Passage.serve, Handler.run, actOnTasks, hid.pathText.percentText?, hbody,
    if_neg (report_not_head update signed), and_self]

end Report

def Execution.status (execution : Execution) : TaskStatus :=
  if execution.exitCode = some 0 then .completed else .failed

theorem Execution.status_isTerminal (execution : Execution) :
    execution.status.isTerminal = true := by
  simp only [status]
  split <;> rfl

/-- The task with the results of a command. -/
def Execution.recordedOn (execution : Execution) (task : Task) : Task :=
  { task with
    status := execution.status
    output := some execution.output
    error := if execution.errors = "" then none else some execution.errors
    exitCode := execution.exitCode }

/-- What the report on a command asks for is to put the results into the task. -/
theorem Execution.validateUpdate_report (execution : Execution) :
    ∃ update, validateUpdate execution.report = .ok update ∧ update.status = execution.status ∧
      ∀ task, update.apply task = execution.recordedOn task := by
  refine ⟨⟨execution.status, some execution.output,
    if execution.errors = "" then none else some execution.errors, execution.exitCode⟩,
    ?_, rfl, fun task => rfl⟩
  rw [validateUpdate_eq_ok_iff]
  simp only [report, succeeded, status, TaskStatus.ofText?_text, decide_eq_true_eq,
    String.isEmpty_iff, and_self]

section Queue

variable {store : TaskStore} {id : String} {number : Nat} {task : Task}

/-- The queue puts the results into a task that is running. -/
theorem Execution.report_taken (execution : Execution)
    (hentry : store.tasks.get? id = some ⟨number, task⟩) (hrunning : task.status = .running) :
    updateTask TaskStore.repository id execution.report store =
      (.ok (execution.recordedOn task), store.put id ⟨number, execution.recordedOn task⟩) := by
  obtain ⟨update, hupdate, hstatus, happly⟩ := execution.validateUpdate_report
  have hmove : task.status.canMoveTo execution.status = true := by
    rw [hrunning, Execution.status]
    split <;> rfl
  simp only [updateTask, hupdate, TaskStore.repository, TaskStore.update, hentry, hstatus, hmove,
    ↓reduceIte, happly, TaskStore.put]

/-- It refuses to put any into a task that is over. -/
theorem Execution.report_refused (execution : Execution)
    (hentry : store.tasks.get? id = some ⟨number, task⟩)
    (hterminal : task.status.isTerminal = true) :
    updateTask TaskStore.repository id execution.report store =
      (.error (.invalidTransition id task.status execution.status), store) := by
  obtain ⟨update, hupdate, hstatus, -⟩ := execution.validateUpdate_report
  have hmove : task.status.canMoveTo execution.status = false := by
    rw [TaskStatus.canMoveTo, hterminal, Bool.not_true, Bool.false_and]
  simp only [updateTask, hupdate, TaskStore.repository, TaskStore.update, hentry, hstatus, hmove,
    Bool.false_eq_true, ↓reduceIte]

end Queue

section Run

variable {service : Service} {before later : List ServerEvent} {id : String} {task : Task}
  {execution : Execution}

/-- The event updates the task: a report on it comes in, whoever sends it, and is taken. -/
def Updates (service : Service) (before : List ServerEvent) (event : ServerEvent) (id : String) :
    Prop :=
  ∃ occasion request segment, event = .request occasion request ∧
    (service.passage occasion request (service.after before)).1 =
      .handled (.tasks (.update segment)) ∧
    percentText? segment = some id ∧
    isSuccess (service.handle occasion request (service.after before)).1.status = true

/-- Only a `PUT` on the route of a task leads to an update, and that of this task. -/
theorem Route.eq_update {route : Route} {method signer segment : String}
    (hupdate : Passage.to (route.handler? method signer) = .handled (.tasks (.update segment))) :
    route = .task segment ∧ method = "PUT" := by
  cases route with
  | register | claim =>
      simp only [Route.handler?] at hupdate
      split at hupdate <;> cases hupdate
  | tasks =>
      simp only [Route.handler?, tasksAction?] at hupdate
      split at hupdate
      · cases hupdate
      · split at hupdate <;> cases hupdate
  | task other =>
      simp only [Route.handler?, taskAction?] at hupdate
      split at hupdate
      · cases hupdate
      · split at hupdate
        · next hput =>
            cases hupdate
            exact ⟨rfl, hput⟩
        · cases hupdate

theorem Updates.method {occasion : Occasion} {request : Request}
    (hupdates : Updates service before (.request occasion request) id) : request.method = "PUT" := by
  obtain ⟨_, _, segment, hevent, hpassage, -⟩ := hupdates
  cases hevent
  obtain ⟨route, signer, -, hto⟩ := Service.handler_of_passage hpassage
  exact (Route.eq_update hto).2

/-- A report that is not turned away updates the task if it is answered with success. -/
theorem updates_iff_of_report (hid : TaskIdForm id) {update : UpdateTaskRequest}
    {occasion : Occasion} {signed : SignedHeaders}
    (hpassage : (service.passage occasion ((TaskCall.report id update).request signed)
      (service.after before)).1 = .handled (.tasks (.update id))) :
    Updates service before (.request occasion ((TaskCall.report id update).request signed)) id ↔
      isSuccess (service.handle occasion ((TaskCall.report id update).request signed)
        (service.after before)).1.status = true := by
  constructor
  · rintro ⟨_, _, segment, hevent, -, -, hsuccess⟩
    cases hevent
    exact hsuccess
  · intro hsuccess
    exact ⟨occasion, _, id, rfl, hpassage, hid.pathText.percentText?, hsuccess⟩

/-- All other events leave a task alone that is no longer pending. -/
theorem kept_of_not_updates {event : ServerEvent}
    (htask : (service.after before).tasks.findById? id = some task) (hstatus : task.status ≠ .pending)
    (hother : ¬ Updates service before event id) :
    (service.after (before ++ [event])).tasks.findById? id = some task := by
  rw [Service.after_snoc]
  rcases service.step_tasks (service.after before) event with hsame |
    ⟨occasion, request, handler, call, rfl, hpassage, hcalls, hnext⟩
  · rw [hsame, htask]
  · obtain ⟨later, hlater, hchange⟩ :=
      (call.effect_perform (service.after before).tasks).change htask
    rw [hnext, hlater]
    cases hchange with
    | unchanged => rfl
    | claimed agentId hcall hpending => exact absurd hpending hstatus
    | reported body update hcall hupdate hmove hresult =>
        cases hcall
        cases hcalls with
        | update segment id hid body hbody =>
            refine absurd ?_ hother
            refine ⟨occasion, request, segment, rfl, hpassage, hid, ?_⟩
            rw [Service.handle_status, hpassage]
            simp only [QueueCall.perform] at hresult
            simp only [Passage.serve, Handler.run, actOnTasks, hid, hbody]
            cases htaken : (updateTask TaskStore.repository id body
              (service.after before).tasks).1 with
            | ok found => rfl
            | error error =>
                rw [htaken] at hresult
                cases hresult

/-- The report on a command arrives and is not turned away. -/
def Reports (service : Service) (before : List ServerEvent) (event : ServerEvent) (id : String)
    (execution : Execution) : Prop :=
  ∃ occasion signed, event = .request occasion
      ((TaskCall.report id execution.report).request signed) ∧
    ∀ error, (service.passage occasion ((TaskCall.report id execution.report).request signed)
      (service.after before)).1 ≠ .denied error

/-- A report that is not turned away puts the results into a task that is running, and is answered
with the task. -/
theorem recorded_of_report (hid : TaskIdForm id) (hfits : execution.report.Fits)
    (htask : (service.after before).tasks.findById? id = some task)
    (hrunning : task.status = .running)
    {occasion : Occasion} {signed : SignedHeaders}
    (hpassage : (service.passage occasion ((TaskCall.report id execution.report).request signed)
      (service.after before)).1 = .handled (.tasks (.update id))) :
    (service.after (before ++ [.request occasion
        ((TaskCall.report id execution.report).request signed)])).tasks.findById? id =
      some (execution.recordedOn task) ∧
    (service.handle occasion ((TaskCall.report id execution.report).request signed)
      (service.after before)).1 = valueResponse 200 Task.shape.codec (execution.recordedOn task) := by
  obtain ⟨hresponse, htasks⟩ := handle_of_report _ signed service occasion _ hid hfits hpassage
  obtain ⟨⟨number, found⟩, hentry, rfl⟩ := Option.map_eq_some_iff.1 htask
  have htaken := execution.report_taken hentry hrunning
  constructor
  · rw [Service.after_snoc, Service.step, htasks, htaken, TaskStore.findById?_put, if_pos rfl]
  · rw [hresponse, htaken]
    rfl

/-- A report that is not turned away is refused for a task that is over. -/
theorem refused_of_report (hid : TaskIdForm id) (hfits : execution.report.Fits)
    (htask : (service.after before).tasks.findById? id = some task)
    (hterminal : task.status.isTerminal = true) {occasion : Occasion} {signed : SignedHeaders}
    (hpassage : (service.passage occasion ((TaskCall.report id execution.report).request signed)
      (service.after before)).1 = .handled (.tasks (.update id))) :
    (service.handle occasion ((TaskCall.report id execution.report).request signed)
      (service.after before)).1 =
        (ApiError.ofTask (.invalidTransition id task.status execution.status)).response := by
  obtain ⟨hresponse, -⟩ := handle_of_report _ signed service occasion _ hid hfits hpassage
  obtain ⟨⟨number, found⟩, hentry, rfl⟩ := Option.map_eq_some_iff.1 htask
  rw [hresponse, execution.report_refused hentry hterminal]
  rfl

/-- A task that only reports on one command update holds what it held, until the first of them is not
turned away, and the results of the command from then on. -/
theorem recorded_iff_reported (hid : TaskIdForm id) (hfits : execution.report.Fits)
    (htask : (service.after before).tasks.findById? id = some task)
    (hrunning : task.status = .running)
    (honly : ∀ middle event, middle ++ [event] <+: later →
      Updates service (before ++ middle) event id → ∃ occasion signed, event =
        .request occasion ((TaskCall.report id execution.report).request signed)) :
    ((service.after (before ++ later)).tasks.findById? id = some (execution.recordedOn task) ∧
      ∃ middle event, middle ++ [event] <+: later ∧
        Reports service (before ++ middle) event id execution ∧
        Updates service (before ++ middle) event id) ∨
    ((service.after (before ++ later)).tasks.findById? id = some task ∧
      ∀ middle event, middle ++ [event] <+: later →
        ¬ Reports service (before ++ middle) event id execution) := by
  induction later using List.reverseRecOn with
  | nil =>
      right
      rw [List.append_nil]
      refine ⟨htask, ?_⟩
      intro middle event hmoment
      simp at hmoment
  | append_singleton later event ih =>
      have hearlier : later <+: later ++ [event] := List.prefix_append _ _
      rcases ih fun middle event hmoment => honly middle event (hmoment.trans hearlier) with
        ⟨hrecorded, middle, report, hmoment, htaken⟩ | ⟨hkept, hnone⟩
      · left
        refine ⟨?_, middle, report, hmoment.trans hearlier, htaken⟩
        obtain ⟨found, hfound, hbecomes⟩ := service.after_becomes (before ++ later) [event] hrecorded
        rw [← List.append_assoc, hfound, hbecomes.final (execution.status_isTerminal)]
      · rw [← List.append_assoc]
        by_cases hreport : Reports service (before ++ later) event id execution
        · left
          have hevent := hreport
          obtain ⟨occasion, signed, rfl, hpassed⟩ := hevent
          rcases passage_of_report execution.report signed service occasion
            (service.after (before ++ later)) hid with ⟨error, hdenied⟩ | hpassage
          · exact absurd hdenied (hpassed error)
          · obtain ⟨hstored, hresponse⟩ := recorded_of_report hid hfits hkept hrunning hpassage
            refine ⟨hstored, later, _, List.prefix_refl _, hreport, ?_⟩
            rw [updates_iff_of_report hid hpassage, hresponse]
            rfl
        · right
          constructor
          · apply kept_of_not_updates hkept (by rw [hrunning]; exact TaskStatus.noConfusion)
            intro hupdates
            obtain ⟨occasion, signed, rfl⟩ := honly later event (List.prefix_refl _) hupdates
            apply hreport
            refine ⟨occasion, signed, rfl, ?_⟩
            obtain ⟨_, _, segment, hevent, hpassage, -⟩ := hupdates
            cases hevent
            intro error
            rw [hpassage]
            exact Passage.noConfusion
          · intro middle other hmoment
            rcases List.prefix_concat_iff.1 hmoment with hlast | hbefore
            · obtain ⟨rfl, hsame⟩ := List.append_inj' hlast rfl
              cases hsame
              exact hreport
            · exact hnone middle other hbefore

end Run

end Muster.Agent
