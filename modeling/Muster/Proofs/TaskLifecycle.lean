import Mathlib.Data.List.Induction
import Muster.ControlPlane.TaskQueue
import Muster.Proofs.TaskStoreSteps
/-!
The life of a task in the queue. Every call has one of a few effects on the store, and each of them
moves a task forward or leaves it alone; what a whole run keeps follows from that.
-/
namespace Muster.ControlPlane

open Store Time

/-- A call to the queue. A new task comes with its id and the time. -/
inductive QueueCall
  | create (request : CreateTaskRequest) (id : String) (now : Instant)
  | update (id : String) (request : UpdateTaskRequest)
  | claim (agentId : String)

/-- The answer to a call, a task or none at all, and the store behind it. -/
def QueueCall.perform (store : TaskStore) : QueueCall → Except TaskError (Option Task) × TaskStore
  | .create request id now =>
      let (result, store) := createTask TaskStore.repository request id now store
      (result.map some, store)
  | .update id request =>
      let (result, store) := updateTask TaskStore.repository id request store
      (result.map some, store)
  | .claim agentId => claimTask TaskStore.repository agentId store

def queueAfter (calls : List QueueCall) : TaskStore :=
  calls.foldl (fun store call => (call.perform store).2) TaskStore.empty

/-- All that a call can do: it adds a task, changes one, or changes nothing. -/
inductive QueueCall.Effect (store : TaskStore) :
    QueueCall → Except TaskError (Option Task) → TaskStore → Prop
  | created (request : CreateTaskRequest) (id : String) (now : Instant)
      (hcommand : validateCreate request = .ok ())
      (hfree : store.tasks.get? id = none) :
      Effect store (.create request id now) (.ok (some (newTask request id now)))
        { store.put id ⟨store.next, newTask request id now⟩ with next := store.next + 1 }
  | reported (id : String) (request : UpdateTaskRequest) (update : TaskUpdate)
      (number : Nat) (task : Task) (hupdate : validateUpdate request = .ok update)
      (hentry : store.tasks.get? id = some ⟨number, task⟩)
      (hmove : task.status.canMoveTo update.status = true) :
      Effect store (.update id request) (.ok (some (update.apply task)))
        (store.put id ⟨number, update.apply task⟩)
  | claimed (agentId id : String) (number : Nat) (task : Task)
      (hentry : store.tasks.get? id = some ⟨number, task⟩) (hpending : task.status = .pending) :
      Effect store (.claim agentId) (.ok (some (Task.claimedFor task agentId)))
        (store.put id ⟨number, Task.claimedFor task agentId⟩)
  | idle (agentId : String) : Effect store (.claim agentId) (.ok none) store
  | refused (call : QueueCall) (error : TaskError) : Effect store call (.error error) store

theorem QueueCall.effect_create (store : TaskStore) (request : CreateTaskRequest) (id : String)
    (now : Instant) :
    Effect store (.create request id now) (perform store (.create request id now)).1
      (perform store (.create request id now)).2 := by
  simp only [perform, createTask, TaskStore.repository]
  cases hcommand : validateCreate request with
  | error violations => exact .refused _ _
  | ok _ =>
      rcases store.create_cases (newTask request id now) with ⟨hfree, hcreate⟩ | ⟨_, hcreate⟩
      · simp only [hcreate]
        exact .created request id now hcommand hfree
      · simp only [hcreate]
        exact .refused _ _

theorem QueueCall.effect_update (store : TaskStore) (id : String) (request : UpdateTaskRequest) :
    Effect store (.update id request) (perform store (.update id request)).1
      (perform store (.update id request)).2 := by
  simp only [perform, updateTask, TaskStore.repository]
  cases hupdate : validateUpdate request with
  | error violations => exact .refused _ _
  | ok update =>
      rcases store.update_cases id update with
        ⟨number, task, hentry, hmove, hresult⟩ | ⟨error, hresult⟩
      · simp only [hresult]
        exact .reported id request update number task hupdate hentry hmove
      · simp only [hresult]
        cases error <;> exact .refused _ _

theorem QueueCall.effect_claim (store : TaskStore) (agentId : String) :
    Effect store (.claim agentId) (perform store (.claim agentId)).1
      (perform store (.claim agentId)).2 := by
  simp only [perform, claimTask, TaskStore.repository]
  rcases store.claimNext_cases agentId with ⟨id, number, task, hentry, hpending, hclaim⟩ | hclaim
  · simp only [hclaim, storeResult]
    exact .claimed agentId id number task hentry hpending
  · simp only [hclaim, storeResult]
    exact .idle agentId

theorem QueueCall.effect_perform (store : TaskStore) (call : QueueCall) :
    Effect store call (call.perform store).1 (call.perform store).2 := by
  cases call with
  | create request id now => exact effect_create store request id now
  | update id request => exact effect_update store id request
  | claim agentId => exact effect_claim store agentId

/-- What becomes of a task in one call: a report puts its status and its results in place, a claim
gives it to an agent, and all else leaves it as it is. -/
inductive TaskChange (call : QueueCall) (result : Except TaskError (Option Task)) (id : String)
    (task : Task) : Task → Prop
  | unchanged : TaskChange call result id task task
  | reported (request : UpdateTaskRequest) (update : TaskUpdate)
      (hcall : call = .update id request) (hupdate : validateUpdate request = .ok update)
      (hmove : task.status.canMoveTo update.status = true)
      (hresult : result = .ok (some (update.apply task))) :
      TaskChange call result id task (update.apply task)
  | claimed (agentId : String) (hcall : call = .claim agentId)
      (hpending : task.status = .pending)
      (hresult : result = .ok (some (Task.claimedFor task agentId))) :
      TaskChange call result id task (Task.claimedFor task agentId)

/-- No call removes a task. -/
theorem QueueCall.Effect.change {store next : TaskStore} {call : QueueCall}
    {result : Except TaskError (Option Task)} (heffect : Effect store call result next)
    {id : String} {task : Task} (htask : store.findById? id = some task) :
    ∃ later, next.findById? id = some later ∧ TaskChange call result id task later := by
  cases heffect with
  | created request newId now hcommand hfree =>
      have hother : id ≠ newId := by
        rintro rfl
        simp [TaskStore.findById?, hfree] at htask
      refine ⟨task, ?_, .unchanged⟩
      change (store.put newId _).findById? id = some task
      rw [TaskStore.findById?_put, if_neg hother, htask]
  | reported reportedId request update number found hupdate hentry hmove =>
      rcases TaskStore.findById?_put_cases hentry htask ⟨number, update.apply found⟩ with
        ⟨rfl, rfl, hlater⟩ | hlater
      · exact ⟨_, hlater, .reported request update rfl hupdate hmove rfl⟩
      · exact ⟨_, hlater, .unchanged⟩
  | claimed agentId claimedId number found hentry hpending =>
      rcases TaskStore.findById?_put_cases hentry htask
          ⟨number, Task.claimedFor found agentId⟩ with ⟨rfl, rfl, hlater⟩ | hlater
      · exact ⟨_, hlater, .claimed agentId rfl hpending rfl⟩
      · exact ⟨_, hlater, .unchanged⟩
  | idle agentId => exact ⟨task, htask, .unchanged⟩
  | refused call error => exact ⟨task, htask, .unchanged⟩

/-- A task that was not there before is the one that the call asked for. -/
theorem QueueCall.Effect.new {store next : TaskStore} {call : QueueCall}
    {result : Except TaskError (Option Task)} (heffect : Effect store call result next)
    {id : String} {task : Task} (hnone : store.findById? id = none)
    (htask : next.findById? id = some task) :
    ∃ request now, call = .create request id now ∧ validateCreate request = .ok () ∧
      task = newTask request id now := by
  cases heffect with
  | created request newId now hcommand hfree =>
      change (store.put newId _).findById? id = some task at htask
      rw [TaskStore.findById?_put] at htask
      by_cases hsame : id = newId
      · subst hsame
        rw [if_pos rfl] at htask
        exact ⟨request, now, rfl, hcommand, (Option.some.inj htask).symm⟩
      · rw [if_neg hsame, hnone] at htask
        cases htask
  | reported reportedId request update number found hupdate hentry hmove =>
      rw [TaskStore.findById?_put_eq_none hentry hnone] at htask
      cases htask
  | claimed agentId claimedId number found hentry hpending =>
      rw [TaskStore.findById?_put_eq_none hentry hnone] at htask
      cases htask
  | idle agentId =>
      rw [hnone] at htask
      cases htask
  | refused call error =>
      rw [hnone] at htask
      cases htask

/-- What holds of every task at every moment: nobody has claimed it while it is pending, and its
command is one. -/
structure Task.Sound (task : Task) : Prop where
  unclaimed : task.status = .pending → task.claimedBy = none
  command : ∃ words, parseCommand task.command = .ok words

/-- A later state of the same task. What was asked for is kept, the status only moves forward, and
neither a claim nor the end is ever taken back. -/
structure Task.Becomes (task later : Task) : Prop where
  id : later.id = task.id
  command : later.command = task.command
  priority : later.priority = task.priority
  createdAt : later.createdAt = task.createdAt
  status : task.status = later.status ∨ task.status.rank < later.status.rank
  claimedBy : ∀ agentId, task.claimedBy = some agentId → later.claimedBy = some agentId
  final : task.status.isTerminal = true → later = task

theorem Task.Becomes.refl (task : Task) : Task.Becomes task task :=
  ⟨rfl, rfl, rfl, rfl, Or.inl rfl, fun _ hclaim => hclaim, fun _ => rfl⟩

theorem Task.Becomes.trans {first second third : Task} (hfirst : Task.Becomes first second)
    (hsecond : Task.Becomes second third) : Task.Becomes first third where
  id := hsecond.id.trans hfirst.id
  command := hsecond.command.trans hfirst.command
  priority := hsecond.priority.trans hfirst.priority
  createdAt := hsecond.createdAt.trans hfirst.createdAt
  status := by
    rcases hfirst.status with hsame | hforward
    · rw [hsame]
      exact hsecond.status
    · rcases hsecond.status with hsame | hfurther
      · exact Or.inr (hsame ▸ hforward)
      · exact Or.inr (Nat.lt_trans hforward hfurther)
  claimedBy agentId hclaim := hsecond.claimedBy agentId (hfirst.claimedBy agentId hclaim)
  final hterminal := by
    have hsame := hfirst.final hterminal
    subst hsame
    exact hsecond.final hterminal

theorem TaskChange.becomes {call : QueueCall} {result : Except TaskError (Option Task)}
    {id : String} {task later : Task} (hchange : TaskChange call result id task later)
    (hsound : Task.Sound task) :
    Task.Becomes task later := by
  cases hchange with
  | unchanged => exact .refl task
  | reported request update hcall hupdate hmove hresult =>
      have hforward := (TaskStatus.canMoveTo_iff task.status update.status).1 hmove
      refine ⟨rfl, rfl, rfl, rfl, ?_, fun _ hclaim => hclaim, ?_⟩
      · rcases hforward with hforward | ⟨hsame, _⟩
        · exact Or.inr hforward
        · exact Or.inl hsame
      · intro hterminal
        simp [TaskStatus.canMoveTo, hterminal] at hmove
  | claimed agentId hcall hpending hresult =>
      refine ⟨rfl, rfl, rfl, rfl, ?_, ?_, ?_⟩
      · rw [hpending]
        exact Or.inr Nat.zero_lt_one
      · intro other hclaim
        rw [hsound.unclaimed hpending] at hclaim
        cases hclaim
      · intro hterminal
        rw [hpending] at hterminal
        cases hterminal

theorem TaskChange.sound {call : QueueCall} {result : Except TaskError (Option Task)}
    {id : String} {task later : Task} (hchange : TaskChange call result id task later)
    (hsound : Task.Sound task) :
    Task.Sound later := by
  cases hchange with
  | unchanged => exact hsound
  | reported request update hcall hupdate hmove hresult =>
      refine ⟨?_, hsound.command⟩
      intro hpending
      apply hsound.unclaimed
      -- only a pending task can be reported as pending
      rcases (TaskStatus.canMoveTo_iff task.status update.status).1 hmove with hforward | ⟨hsame, _⟩
      · change update.status = .pending at hpending
        rw [hpending] at hforward
        exact absurd hforward (Nat.not_lt_zero _)
      · exact hsame.trans hpending
  | claimed agentId hcall hpending hresult =>
      refine ⟨?_, hsound.command⟩
      intro hrunning
      cases hrunning

theorem newTask_sound {request : CreateTaskRequest} (hcommand : validateCreate request = .ok ())
    (id : String) (now : Instant) : Task.Sound (newTask request id now) := by
  refine ⟨fun _ => rfl, ?_⟩
  simp only [validateCreate] at hcommand
  cases hwords : parseCommand request.command with
  | ok words => exact ⟨words, hwords⟩
  | error error => simp [hwords] at hcommand

theorem queueAfter_snoc (calls : List QueueCall) (call : QueueCall) :
    queueAfter (calls ++ [call]) = (call.perform (queueAfter calls)).2 := by
  simp [queueAfter]

/-- Every task is as sound as the one it was or the one that was asked for. -/
theorem queueAfter_sound (calls : List QueueCall) {id : String} {task : Task}
    (htask : (queueAfter calls).findById? id = some task) : Task.Sound task := by
  induction calls using List.reverseRecOn generalizing task with
  | nil => simp [queueAfter, TaskStore.empty, TaskStore.findById?] at htask
  | append_singleton calls call ih =>
      rw [queueAfter_snoc] at htask
      have heffect := call.effect_perform (queueAfter calls)
      cases hbefore : (queueAfter calls).findById? id with
      | none =>
          obtain ⟨request, now, _, hcommand, rfl⟩ := heffect.new hbefore htask
          exact newTask_sound hcommand id now
      | some earlier =>
          obtain ⟨later, hlater, hchange⟩ := heffect.change hbefore
          have hsame : later = task := Option.some.inj (hlater.symm.trans htask)
          subst hsame
          exact hchange.sound (ih hbefore)

/-- A task that is there at some moment is there at all later ones. -/
theorem queueAfter_becomes (before after : List QueueCall) {id : String} {task : Task}
    (htask : (queueAfter before).findById? id = some task) :
    ∃ later, (queueAfter (before ++ after)).findById? id = some later ∧
      Task.Becomes task later := by
  induction after using List.reverseRecOn with
  | nil => exact ⟨task, by rwa [List.append_nil], .refl task⟩
  | append_singleton after call ih =>
      obtain ⟨middle, hmiddle, hfirst⟩ := ih
      rw [← List.append_assoc, queueAfter_snoc]
      obtain ⟨later, hlater, hchange⟩ :=
        (call.effect_perform (queueAfter (before ++ after))).change hmiddle
      have hsound := queueAfter_sound (before ++ after) hmiddle
      exact ⟨later, hlater, hfirst.trans (hchange.becomes hsound)⟩

/-- The second claim comes too late. -/
example :
    ((queueAfter [.create ⟨"ls -l", 0⟩ "t1" Instant.epoch, .claim "a", .claim "b"]).findById?
      "t1").map (·.claimedBy) = some (some "a") := by decide +kernel

/-- What one call, made behind some others, may do to a task. -/
structure LawfulCall (before : List QueueCall) (call : QueueCall) : Prop where
  /-- A new task is as it was asked for, without results. -/
  new : ∀ id task, (queueAfter before).findById? id = none →
    (queueAfter (before ++ [call])).findById? id = some task →
    ∃ request now, call = .create request id now ∧ task = newTask request id now ∧
      (task.output, task.error, task.exitCode) = (none, none, none)
  /-- Only a claim names an agent, and it moves the task from pending to running. -/
  claim : ∀ id task later, (queueAfter before).findById? id = some task →
    (queueAfter (before ++ [call])).findById? id = some later →
    later.claimedBy ≠ task.claimedBy →
    ∃ agentId, call = .claim agentId ∧ task.claimedBy = none ∧ later.claimedBy = some agentId ∧
      task.status = .pending ∧ later.status = .running
  /-- Only a report that is taken changes results. -/
  results : ∀ id task later, (queueAfter before).findById? id = some task →
    (queueAfter (before ++ [call])).findById? id = some later →
    (later.output, later.error, later.exitCode) ≠ (task.output, task.error, task.exitCode) →
    ∃ request, call = .update id request ∧
      (call.perform (queueAfter before)).1 = .ok (some later)
  /-- A report that is taken puts its status and its results in place. -/
  report : ∀ id request answer, call = .update id request →
    (call.perform (queueAfter before)).1 = .ok answer →
    ∃ task, answer = some task ∧ (queueAfter (before ++ [call])).findById? id = some task ∧
      TaskStatus.ofText? request.status = some task.status ∧
      (task.output, task.error, task.exitCode) =
        (request.output, request.error, request.exitCode)
  /-- A call that fails, or finds nothing to claim, changes nothing. -/
  trace : (∃ error, (call.perform (queueAfter before)).1 = .error error) ∨
      (call.perform (queueAfter before)).1 = .ok none →
    queueAfter (before ++ [call]) = queueAfter before

theorem validateUpdate_eq_ok_iff (request : UpdateTaskRequest) (update : TaskUpdate) :
    validateUpdate request = .ok update ↔
      TaskStatus.ofText? request.status = some update.status ∧
        (update.output, update.error, update.exitCode) =
          (request.output, request.error, request.exitCode) := by
  obtain ⟨status, output, error, exitCode⟩ := update
  simp only [validateUpdate]
  cases hstatus : TaskStatus.ofText? request.status with
  | none => simp
  | some named =>
      simp only [Except.ok.injEq, TaskUpdate.mk.injEq, Option.some.injEq, Prod.mk.injEq]
      constructor
      · rintro ⟨rfl, rfl, rfl, rfl⟩
        exact ⟨rfl, rfl, rfl, rfl⟩
      · rintro ⟨rfl, rfl, rfl, rfl⟩
        exact ⟨rfl, rfl, rfl, rfl⟩

theorem QueueCall.Effect.report {store next : TaskStore} {id : String}
    {request : UpdateTaskRequest} {answer : Option Task}
    (heffect : Effect store (.update id request) (.ok answer) next) :
    ∃ task, answer = some task ∧ next.findById? id = some task ∧
      TaskStatus.ofText? request.status = some task.status ∧
      (task.output, task.error, task.exitCode) =
        (request.output, request.error, request.exitCode) := by
  cases heffect with
  | reported _ _ update number task hupdate hentry hmove =>
      obtain ⟨hstatus, hresults⟩ := (validateUpdate_eq_ok_iff request update).1 hupdate
      refine ⟨update.apply task, rfl, ?_, hstatus, hresults⟩
      rw [TaskStore.findById?_put, if_pos rfl]

theorem QueueCall.Effect.trace {store next : TaskStore} {call : QueueCall}
    {result : Except TaskError (Option Task)} (heffect : Effect store call result next)
    (hresult : (∃ error, result = .error error) ∨ result = .ok none) : next = store := by
  cases heffect with
  | created | reported | claimed => simp at hresult
  | idle agentId => rfl
  | refused call error => rfl

theorem lawfulCall (before : List QueueCall) (call : QueueCall) : LawfulCall before call := by
  have heffect := call.effect_perform (queueAfter before)
  have hchange : ∀ id task later, (queueAfter before).findById? id = some task →
      (queueAfter (before ++ [call])).findById? id = some later →
      TaskChange call (call.perform (queueAfter before)).1 id task later := by
    intro id task later htask hlater
    rw [queueAfter_snoc] at hlater
    obtain ⟨found, hfound, hchange⟩ := heffect.change htask
    rwa [Option.some.inj (hlater.symm.trans hfound)]
  refine ⟨?_, ?_, ?_, ?_, ?_⟩
  · intro id task hnone htask
    rw [queueAfter_snoc] at htask
    obtain ⟨request, now, hcall, _, rfl⟩ := heffect.new hnone htask
    exact ⟨request, now, hcall, rfl, rfl⟩
  · intro id task later htask hlater hclaimed
    cases hchange id task later htask hlater with
    | unchanged => exact absurd rfl hclaimed
    | reported => exact absurd rfl hclaimed
    | claimed agentId hcall hpending hresult =>
        have hnone := (queueAfter_sound before htask).unclaimed hpending
        exact ⟨agentId, hcall, hnone, rfl, hpending, rfl⟩
  · intro id task later htask hlater hresults
    cases hchange id task later htask hlater with
    | unchanged => exact absurd rfl hresults
    | claimed => exact absurd rfl hresults
    | reported request update hcall hupdate hmove hresult => exact ⟨request, hcall, hresult⟩
  · rintro id request answer rfl hanswer
    rw [hanswer] at heffect
    rw [queueAfter_snoc]
    exact heffect.report
  · intro hresult
    rw [queueAfter_snoc]
    exact heffect.trace hresult

/-- What every run of queue calls keeps to. -/
structure Lifecycle (calls : List QueueCall) : Prop where
  becomes : ∀ earlier, earlier <+: calls → ∀ id task,
    (queueAfter earlier).findById? id = some task →
    ∃ later, (queueAfter calls).findById? id = some later ∧ Task.Becomes task later
  sound : ∀ id task, (queueAfter calls).findById? id = some task → Task.Sound task
  lawful : ∀ before call, before ++ [call] <+: calls → LawfulCall before call

/-- Every task stays what it was asked to be and only moves forward, whatever calls are made in
whatever order: it is never lost, is claimed at most once and while it is pending, has the results of
its last report, and does not change any more when it is over. -/
theorem queue_lifecycle (calls : List QueueCall) : Lifecycle calls where
  becomes := by
    rintro earlier ⟨after, rfl⟩ id task htask
    exact queueAfter_becomes earlier after htask
  sound _ _ htask := queueAfter_sound calls htask
  lawful before call _ := lawfulCall before call

end Muster.ControlPlane
