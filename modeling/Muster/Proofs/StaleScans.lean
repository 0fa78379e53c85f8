import Mathlib.Data.Fin.VecNotation
import Mathlib.Data.List.Induction
import Mathlib.Logic.Function.Basic
import Mathlib.Logic.Function.Iterate
import Muster.Proofs.CreationOrder
/-!
Claims over a store that changes under them. A claim looks at the store once and then tries what was
pending at that look, one task by one; between its steps come those of other calls, so that its
candidates can be out of date as far as they like. What makes claiming safe is that a task never
becomes pending again: a candidate that is no longer pending is one that somebody else has taken up.
-/
namespace Muster.Store

/-- How far a call has come. -/
inductive CallStage
  | start
  | trying (next : String) (later : List String)
  | finished (result : Except StoreError (Option Task))
deriving DecidableEq

/-- The stage of a claim that has these tasks still to try. -/
def CallStage.before : List String → CallStage
  | [] => .finished (.ok none)
  | next :: later => .trying next later

/-- One step of a call. A claim finds its candidates in the first one and tries one of them in each
later one; any other call is done in a single step. -/
def StoreCall.advance (store : TaskStore) : StoreCall → CallStage → CallStage × TaskStore
  | .claim _, .start => (.before store.candidates, store)
  | .claim agentId, .trying next later =>
      match store.tryClaim agentId next with
      | (some task, store) => (.finished (.ok (some task)), store)
      | (none, store) => (.before later, store)
  | call, .start =>
      let (result, store) := call.perform store
      (.finished result, store)
  | _, stage => (stage, store)

/-- The steps of a claim that nobody disturbs, from its look at the store on. -/
theorem StoreCall.iterate_advance_before (agentId : String) (ids : List String)
    (store : TaskStore) :
    (fun now => (StoreCall.claim agentId).advance now.2 now.1)^[ids.length]
        (.before ids, store) =
      (.finished (.ok (TaskStore.claimFrom agentId ids store).1),
        (TaskStore.claimFrom agentId ids store).2) := by
  induction ids generalizing store with
  | nil => rfl
  | cons id rest ih =>
      rw [List.length_cons, Function.iterate_succ_apply]
      rcases store.tryClaim_cases agentId id with ⟨number, task, -, -, hclaim⟩ | hclaim
      · simp only [CallStage.before, advance, TaskStore.claimFrom, hclaim]
        exact Function.iterate_fixed rfl _
      · simp only [CallStage.before, advance, TaskStore.claimFrom, hclaim]
        exact ih store

/-- The steps of a call that nobody disturbs come to what the whole call does. -/
theorem StoreCall.iterate_advance (call : StoreCall) (store : TaskStore) :
    (fun now => call.advance now.2 now.1)^[store.candidates.length + 1] (.start, store) =
      (.finished (call.perform store).1, (call.perform store).2) := by
  rw [Function.iterate_succ_apply]
  cases call with
  | create task => exact Function.iterate_fixed rfl _
  | update id report => exact Function.iterate_fixed rfl _
  | claim agentId => exact iterate_advance_before agentId store.candidates store

/-- A store that calls share, and how far each of them has come. -/
structure Sharing (ι : Type) where
  store : TaskStore
  stage : ι → CallStage

variable {ι : Type} [DecidableEq ι]

/-- One of the calls makes one step. -/
def Sharing.step (calls : ι → StoreCall) (sharing : Sharing ι) (i : ι) : Sharing ι :=
  let (stage, store) := (calls i).advance sharing.store (sharing.stage i)
  ⟨store, Function.update sharing.stage i stage⟩

/-- The calls behind some steps, from the empty store on. -/
def Sharing.run (calls : ι → StoreCall) (schedule : List ι) : Sharing ι :=
  schedule.foldl (Sharing.step calls) ⟨TaskStore.empty, fun _ => .start⟩

theorem Sharing.step_self (calls : ι → StoreCall) (sharing : Sharing ι) (i : ι) :
    (sharing.step calls i).stage i = ((calls i).advance sharing.store (sharing.stage i)).1 :=
  Function.update_self ..

theorem Sharing.step_other (calls : ι → StoreCall) (sharing : Sharing ι) {i mover : ι}
    (hother : i ≠ mover) : (sharing.step calls mover).stage i = sharing.stage i :=
  Function.update_of_ne hother ..

theorem Sharing.run_append (calls : ι → StoreCall) (schedule : List ι) (i : ι) :
    Sharing.run calls (schedule ++ [i]) = (Sharing.run calls schedule).step calls i := by
  simp [Sharing.run]

/-- All that one step of a call can do. -/
inductive StoreCall.Advance (store : TaskStore) :
    StoreCall → CallStage → CallStage → TaskStore → Prop
  | looked (agentId : String) :
      Advance store (.claim agentId) .start (.before store.candidates) store
  | took (agentId next : String) (later : List String) (number : Nat) (task : Task)
      (hheld : store.tasks.get? next = some ⟨number, task⟩) (hpending : task.status = .pending) :
      Advance store (.claim agentId) (.trying next later)
        (.finished (.ok (some (Task.claimedFor task agentId))))
        (store.put next ⟨number, Task.claimedFor task agentId⟩)
  | missed (agentId next : String) (later : List String)
      (hmissed : ∀ task, store.findById? next = some task → task.status ≠ .pending) :
      Advance store (.claim agentId) (.trying next later) (.before later) store
  | created (task : Task) (hfree : store.tasks.get? task.id = none) :
      Advance store (.create task) .start (.finished (.ok none))
        { store.put task.id ⟨store.next, task⟩ with next := store.next + 1 }
  | reported (id : String) (report : TaskUpdate) (number : Nat) (task : Task)
      (hheld : store.tasks.get? id = some ⟨number, task⟩)
      (hmove : task.status.canMoveTo report.status = true) :
      Advance store (.update id report) .start (.finished (.ok (some (report.apply task))))
        (store.put id ⟨number, report.apply task⟩)
  | refused (call : StoreCall) (error : StoreError) (hother : ∀ agentId, call ≠ .claim agentId) :
      Advance store call .start (.finished (.error error)) store
  | stuck (call : StoreCall) (next : String) (later : List String)
      (hother : ∀ agentId, call ≠ .claim agentId) :
      Advance store call (.trying next later) (.trying next later) store
  | finished (call : StoreCall) (result : Except StoreError (Option Task)) :
      Advance store call (.finished result) (.finished result) store

theorem TaskStore.findById?_of_held {store : TaskStore} {id : String} {number : Nat} {task : Task}
    (hheld : store.tasks.get? id = some ⟨number, task⟩) : store.findById? id = some task := by
  rw [findById?, hheld]
  rfl

theorem TaskStore.tryClaim_eq_none {store : TaskStore} {agentId id : String}
    (hclaim : store.tryClaim agentId id = (none, store)) {task : Task}
    (htask : store.findById? id = some task) : task.status ≠ .pending := by
  intro hpending
  obtain ⟨⟨number, found⟩, hheld, rfl⟩ := Option.map_eq_some_iff.1 htask
  have hwaiting : found.status = .pending := hpending
  simp [tryClaim, hheld, hwaiting] at hclaim

/-- The step of a call is one of these. -/
theorem StoreCall.advances (store : TaskStore) (call : StoreCall) (stage : CallStage) :
    Advance store call stage (call.advance store stage).1 (call.advance store stage).2 := by
  cases stage with
  | finished result => cases call <;> exact .finished _ result
  | start =>
      cases call with
      | claim agentId => exact .looked agentId
      | create task =>
          rcases store.create_cases task with ⟨hfree, hcreate⟩ | ⟨-, hcreate⟩
          · simp only [advance, perform, hcreate]
            exact .created task hfree
          · simp only [advance, perform, hcreate]
            exact .refused _ _ (by simp)
      | update id report =>
          rcases store.update_cases id report with
            ⟨number, task, hheld, hmove, hupdate⟩ | ⟨error, hupdate⟩
          · simp only [advance, perform, hupdate]
            exact .reported id report number task hheld hmove
          · simp only [advance, perform, hupdate]
            exact .refused _ _ (by simp)
  | trying next later =>
      cases call with
      | create task => exact .stuck _ next later (by simp)
      | update id report => exact .stuck _ next later (by simp)
      | claim agentId =>
          rcases store.tryClaim_cases agentId next with
            ⟨number, task, hheld, hpending, hclaim⟩ | hclaim
          · simp only [advance, hclaim]
            exact .took agentId next later number task hheld hpending
          · simp only [advance, hclaim]
            exact .missed agentId next later fun task => TaskStore.tryClaim_eq_none hclaim

/-- Every task has the id under which it is found. -/
def TaskStore.Named (store : TaskStore) : Prop :=
  ∀ id task, store.findById? id = some task → task.id = id

/-- What becomes of a store: no task goes, and none becomes pending again. -/
def TaskStore.Onward (store later : TaskStore) : Prop :=
  ∀ id task, store.findById? id = some task → ∃ now, later.findById? id = some now ∧
    (task.status ≠ .pending → now.status ≠ .pending)

theorem TaskStore.Onward.refl (store : TaskStore) : store.Onward store :=
  fun _ task htask => ⟨task, htask, id⟩

theorem TaskStore.Onward.trans {first second third : TaskStore} (hfirst : first.Onward second)
    (hsecond : second.Onward third) : first.Onward third := by
  intro id task htask
  obtain ⟨middle, hmiddle, hkept⟩ := hfirst id task htask
  obtain ⟨last, hlast, hstill⟩ := hsecond id middle hmiddle
  exact ⟨last, hlast, fun htaken => hstill (hkept htaken)⟩

variable {store next : TaskStore} {call : StoreCall} {stage after : CallStage}

theorem TaskStore.Named.put (hnamed : store.Named) {id : String} {number : Nat} {task now : Task}
    (hheld : store.tasks.get? id = some ⟨number, task⟩) (hid : now.id = task.id) :
    (store.put id ⟨number, now⟩).Named := by
  intro other found hfound
  rw [findById?_put] at hfound
  split at hfound
  · next hsame =>
      cases hfound
      rw [hid, hsame]
      exact hnamed id task (findById?_of_held hheld)
  · exact hnamed other found hfound

theorem TaskStore.onward_put {id : String} {number : Nat} {task now : Task}
    (hheld : store.tasks.get? id = some ⟨number, task⟩)
    (hstatus : task.status ≠ .pending → now.status ≠ .pending) :
    store.Onward (store.put id ⟨number, now⟩) := by
  intro other found hfound
  rcases findById?_put_cases hheld hfound ⟨number, now⟩ with ⟨-, rfl, hnow⟩ | hnow
  · exact ⟨now, hnow, hstatus⟩
  · exact ⟨found, hnow, fun hstill => hstill⟩

/-- A task does not become pending through a report. -/
theorem TaskStatus.canMoveTo_pending {status : TaskStatus}
    (hmove : status.canMoveTo .pending = true) : status = .pending := by
  cases status with
  | pending => rfl
  | running => cases hmove
  | completed => cases hmove
  | failed => cases hmove

theorem StoreCall.Advance.onward (hadvance : Advance store call stage after next) :
    store.Onward next := by
  cases hadvance with
  | looked | missed | refused | stuck | finished => exact .refl store
  | took agentId id later number task hheld hpending =>
      exact TaskStore.onward_put hheld fun hother => absurd hpending hother
  | reported id report number task hheld hmove =>
      refine TaskStore.onward_put hheld ?_
      intro htaken hpending
      change report.status = .pending at hpending
      rw [hpending] at hmove
      exact htaken (TaskStatus.canMoveTo_pending hmove)
  | created task hfree =>
      intro id found hfound
      have hother : id ≠ task.id := by
        rintro rfl
        simp [TaskStore.findById?, hfree] at hfound
      refine ⟨found, ?_, fun hstill => hstill⟩
      change (store.put task.id _).findById? id = some found
      rw [TaskStore.findById?_put, if_neg hother, hfound]

theorem StoreCall.Advance.named (hadvance : Advance store call stage after next)
    (hnamed : store.Named) : next.Named := by
  cases hadvance with
  | looked | missed | refused | stuck | finished => exact hnamed
  | took agentId id later number task hheld => exact hnamed.put hheld rfl
  | reported id report number task hheld => exact hnamed.put hheld rfl
  | created task hfree =>
      intro id found hfound
      change (store.put task.id _).findById? id = some found at hfound
      rw [TaskStore.findById?_put] at hfound
      split at hfound
      · next hsame =>
          cases hfound
          exact hsame.symm
      · exact hnamed id found hfound

/-- One store is another but for a single task, which was pending and is an agent's now. -/
structure TaskStore.Takes (store : TaskStore) (agentId : String) (task : Task) (next : TaskStore) :
    Prop where
  taken : ∃ number found, store.tasks.get? task.id = some ⟨number, found⟩ ∧
    found.status = .pending ∧ task = Task.claimedFor found agentId ∧
      next.tasks.get? task.id = some ⟨number, task⟩
  others : ∀ id, id ≠ task.id → next.tasks.get? id = store.tasks.get? id
  next : next.next = store.next

theorem TaskStore.takes_put {agentId : String} {number : Nat} {found : Task}
    (hheld : store.tasks.get? found.id = some ⟨number, found⟩)
    (hpending : found.status = .pending) :
    store.Takes agentId (Task.claimedFor found agentId)
      (store.put found.id ⟨number, Task.claimedFor found agentId⟩) := by
  refine ⟨⟨number, found, hheld, hpending, rfl, ?_⟩, ?_, rfl⟩
  · rw [put, Table.get?_insert]
    exact if_pos rfl
  · intro id hother
    rw [put, Table.get?_insert]
    exact if_neg hother

theorem TaskStore.Takes.was_pending {agentId : String} {task : Task}
    (htakes : store.Takes agentId task next) :
    ∃ found, store.findById? task.id = some found ∧ found.status = .pending := by
  obtain ⟨number, found, hheld, hpending, -, -⟩ := htakes.taken
  exact ⟨found, findById?_of_held hheld, hpending⟩

theorem TaskStore.Takes.is_running {agentId : String} {task : Task}
    (htakes : store.Takes agentId task next) :
    next.findById? task.id = some task ∧ task.status = .running := by
  obtain ⟨number, found, -, -, htask, hheld⟩ := htakes.taken
  exact ⟨findById?_of_held hheld, by rw [htask]; rfl⟩

/-- The candidates of a look at the store are the tasks that are pending in it. -/
theorem TaskStore.mem_candidates_iff (store : TaskStore) (id : String) :
    id ∈ store.candidates ↔ ∃ task, store.findById? id = some task ∧ task.status = .pending := by
  simp only [candidates, List.mem_map, (List.mergeSort_perm _ _).mem_iff, List.mem_filter,
    decide_eq_true_eq, Prod.exists, exists_and_right, exists_eq_right, findById?,
    Option.map_eq_some_iff, ← Table.get?_eq_some_iff]
  constructor
  · rintro ⟨entry, hheld, hpending⟩
    exact ⟨entry.task, ⟨entry, hheld, rfl⟩, hpending⟩
  · rintro ⟨task, ⟨entry, hheld, rfl⟩, hpending⟩
    exact ⟨entry, hheld, hpending⟩

variable {calls : ι → StoreCall} {agentId : String} {i : ι}

/-- One step of one call does what such a step can do, if the call is a claim. -/
theorem Sharing.advance_step (sharing : Sharing ι) (hclaim : calls i = .claim agentId) :
    StoreCall.Advance sharing.store (.claim agentId) (sharing.stage i)
      ((sharing.step calls i).stage i) (sharing.step calls i).store := by
  rw [step_self, ← hclaim]
  exact StoreCall.advances ..

/-- Whatever the calls do, the store goes on from one moment to any later one. -/
theorem Sharing.run_onward (calls : ι → StoreCall) {earlier later : List ι}
    (hlater : earlier <+: later) :
    (Sharing.run calls earlier).store.Onward (Sharing.run calls later).store := by
  obtain ⟨rest, rfl⟩ := hlater
  induction rest using List.reverseRecOn with
  | nil =>
      rw [List.append_nil]
      exact .refl _
  | append_singleton rest mover ih =>
      rw [← List.append_assoc, run_append]
      exact ih.trans (StoreCall.advances _ _ _).onward

theorem Sharing.run_named (calls : ι → StoreCall) (schedule : List ι) :
    (Sharing.run calls schedule).store.Named := by
  induction schedule using List.reverseRecOn with
  | nil =>
      intro id task htask
      cases htask
  | append_singleton schedule mover ih =>
      rw [run_append]
      exact (StoreCall.advances _ _ _).named ih

/-- Behind its look at the store, which is its first step, the call has come to a task and has found
it no longer pending. -/
def TriedInVain (calls : ι → StoreCall) (look schedule : List ι) (i : ι) (id : String) : Prop :=
  ∃ moment later task, look ++ [i] <+: moment ∧ moment ++ [i] <+: schedule ∧
    (Sharing.run calls moment).stage i = .trying id later ∧
    (Sharing.run calls moment).store.findById? id = some task ∧ task.status ≠ .pending

/-- A call has looked at the store and has been through some of its candidates in vain. It has still
to try the others. -/
structure GoneThrough (calls : ι → StoreCall) (look schedule : List ι) (i : ι)
    (tried left : List String) : Prop where
  start : (Sharing.run calls look).stage i = .start
  looked : look ++ [i] <+: schedule
  candidates : (Sharing.run calls look).store.candidates = tried ++ left
  inVain : ∀ id ∈ tried, TriedInVain calls look schedule i id

/-- At this moment the turn of a task has come, and the claim takes it and comes back with it. -/
structure TakenInStep (calls : ι → StoreCall) (look moment : List ι) (i : ι) (agentId : String)
    (tried later : List String) (task : Task) : Prop where
  gone : GoneThrough calls look moment i tried (task.id :: later)
  turn : (Sharing.run calls moment).stage i = .trying task.id later
  back : (Sharing.run calls (moment ++ [i])).stage i = .finished (.ok (some task))
  takes : (Sharing.run calls moment).store.Takes agentId task
    (Sharing.run calls (moment ++ [i])).store

/-- How a claim has come to its stage. -/
inductive ClaimHistory (calls : ι → StoreCall) (i : ι) (agentId : String) (schedule : List ι) :
    CallStage → Prop
  | waiting (hsteps : schedule.count i = 0) : ClaimHistory calls i agentId schedule .start
  | trying {look : List ι} {tried later : List String} {id : String}
      (hgone : GoneThrough calls look schedule i tried (id :: later))
      (hsteps : schedule.count i = tried.length + 1) :
      ClaimHistory calls i agentId schedule (.trying id later)
  | exhausted {look : List ι} {tried : List String}
      (hgone : GoneThrough calls look schedule i tried []) :
      ClaimHistory calls i agentId schedule (.finished (.ok none))
  | took {look moment : List ι} {tried later : List String} {task : Task}
      (hmoment : moment ++ [i] <+: schedule)
      (htaken : TakenInStep calls look moment i agentId tried later task) :
      ClaimHistory calls i agentId schedule (.finished (.ok (some task)))

variable {look schedule longer : List ι} {tried left : List String}

theorem GoneThrough.mono (hgone : GoneThrough calls look schedule i tried left)
    (hlonger : schedule <+: longer) : GoneThrough calls look longer i tried left := by
  refine ⟨hgone.start, hgone.looked.trans hlonger, hgone.candidates, ?_⟩
  intro id hid
  obtain ⟨moment, later, task, hlook, hmoment, hfound⟩ := hgone.inVain id hid
  exact ⟨moment, later, task, hlook, hmoment.trans hlonger, hfound⟩

/-- A candidate is still in the store when its turn comes. -/
theorem GoneThrough.stored {id : String}
    (hgone : GoneThrough calls look schedule i tried (id :: left)) :
    ∃ task, (Sharing.run calls schedule).store.findById? id = some task := by
  have hcandidate : id ∈ (Sharing.run calls look).store.candidates := by
    rw [hgone.candidates]
    exact List.mem_append_right _ List.mem_cons_self
  obtain ⟨task, htask, -⟩ := (TaskStore.mem_candidates_iff _ _).1 hcandidate
  have hlater : look <+: schedule := (List.prefix_append look [i]).trans hgone.looked
  obtain ⟨now, hnow, -⟩ := Sharing.run_onward calls hlater id task htask
  exact ⟨now, hnow⟩

/-- A candidate that is no longer pending when its turn comes. -/
theorem GoneThrough.missed {id : String}
    (hgone : GoneThrough calls look schedule i tried (id :: left))
    (hstage : (Sharing.run calls schedule).stage i = .trying id left) {task : Task}
    (htask : (Sharing.run calls schedule).store.findById? id = some task)
    (htaken : task.status ≠ .pending) :
    GoneThrough calls look (schedule ++ [i]) i (tried ++ [id]) left := by
  have hlater := hgone.mono (List.prefix_append schedule [i])
  refine ⟨hgone.start, hlater.looked, ?_, ?_⟩
  · rw [hgone.candidates, List.append_assoc, List.singleton_append]
  · intro candidate hcandidate
    rcases List.mem_append.1 hcandidate with hold | hnew
    · exact hlater.inVain candidate hold
    · rw [List.mem_singleton.1 hnew]
      exact ⟨schedule, left, task, hgone.looked, List.prefix_refl _, hstage, htask, htaken⟩

theorem GoneThrough.history (hgone : GoneThrough calls look schedule i tried left)
    (hsteps : schedule.count i = tried.length + 1) :
    ClaimHistory calls i agentId schedule (.before left) := by
  cases left with
  | nil => exact .exhausted hgone
  | cons id later => exact .trying hgone hsteps

/-- The steps of other calls do not touch what a claim has been through. -/
theorem ClaimHistory.other (hhistory : ClaimHistory calls i agentId schedule stage) {mover : ι}
    (hother : i ≠ mover) : ClaimHistory calls i agentId (schedule ++ [mover]) stage := by
  have hlonger : schedule <+: schedule ++ [mover] := List.prefix_append _ _
  have hcount : (schedule ++ [mover]).count i = schedule.count i := by
    rw [List.count_append, List.count_singleton, if_neg (by simpa using hother.symm), Nat.add_zero]
  cases hhistory with
  | waiting hsteps => exact .waiting (hcount.trans hsteps)
  | trying hgone hsteps => exact .trying (hgone.mono hlonger) (hcount.trans hsteps)
  | exhausted hgone => exact .exhausted (hgone.mono hlonger)
  | took hmoment htaken => exact .took (hmoment.trans hlonger) htaken

/-- A claim makes its next step. -/
theorem ClaimHistory.own (hclaim : calls i = .claim agentId)
    (hhistory : ClaimHistory calls i agentId schedule ((Sharing.run calls schedule).stage i)) :
    ClaimHistory calls i agentId (schedule ++ [i])
      ((Sharing.run calls (schedule ++ [i])).stage i) := by
  have hadvance := (Sharing.run calls schedule).advance_step hclaim
  have hcount : (schedule ++ [i]).count i = schedule.count i + 1 := by
    rw [List.count_append, List.count_singleton_self]
  have hlonger : schedule <+: schedule ++ [i] := List.prefix_append _ _
  rw [← Sharing.run_append] at hadvance
  generalize hnow : (Sharing.run calls (schedule ++ [i])).stage i = now at hadvance ⊢
  generalize hstage : (Sharing.run calls schedule).stage i = stage at hadvance hhistory
  generalize hnext : (Sharing.run calls (schedule ++ [i])).store = next at hadvance
  -- what the claim has been through so far tells its stage, and with that what its step can be
  cases hhistory with
  | waiting hsteps =>
      cases hadvance with
      | refused _ error hother => exact absurd rfl (hother agentId)
      | looked =>
          have hgone : GoneThrough calls schedule (schedule ++ [i]) i []
              (Sharing.run calls schedule).store.candidates :=
            ⟨hstage, List.prefix_refl _, rfl, List.forall_mem_nil _⟩
          exact hgone.history (by rw [hcount, hsteps]; rfl)
  | @trying look tried later id hgone hsteps =>
      cases hadvance with
      | stuck _ _ _ hother => exact absurd rfl (hother agentId)
      | missed _ _ _ hmissed =>
          obtain ⟨task, htask⟩ := hgone.stored
          have hfurther := hgone.missed hstage htask (hmissed task htask)
          exact hfurther.history (by rw [hcount, hsteps, List.length_append]; rfl)
      | took _ _ _ number found hheld hpending =>
          have hid : found.id = id :=
            Sharing.run_named calls schedule id found (TaskStore.findById?_of_held hheld)
          subst hid
          refine .took (List.prefix_refl _) ⟨hgone, hstage, hnow, ?_⟩
          rw [hnext]
          exact TaskStore.takes_put hheld hpending
  | exhausted hgone =>
      cases hadvance with
      | finished => exact .exhausted (hgone.mono hlonger)
  | took hmoment htaken =>
      cases hadvance with
      | finished => exact .took (hmoment.trans hlonger) htaken

/-- Every claim has come to its stage in one of these ways. -/
theorem claimHistory (calls : ι → StoreCall) (schedule : List ι)
    (hclaim : calls i = .claim agentId) :
    ClaimHistory calls i agentId schedule ((Sharing.run calls schedule).stage i) := by
  induction schedule using List.reverseRecOn with
  | nil => exact .waiting rfl
  | append_singleton schedule mover ih =>
      by_cases hmover : i = mover
      · subst hmover
        exact ih.own hclaim
      · rw [Sharing.run_append, Sharing.step_other _ _ hmover]
        exact ih.other hmover

theorem takenInStep (hclaim : calls i = .claim agentId) {task : Task}
    (hover : (Sharing.run calls schedule).stage i = .finished (.ok (some task))) :
    ∃ look moment tried later, moment ++ [i] <+: schedule ∧
      TakenInStep calls look moment i agentId tried later task := by
  have hhistory := claimHistory calls schedule hclaim
  rw [hover] at hhistory
  cases hhistory with
  | @took look moment tried later _ hmoment htaken =>
      exact ⟨look, moment, tried, later, hmoment, htaken⟩

/-- A task that a claim has taken is pending at no later moment, so that no other claim takes it
then. -/
theorem TakenInStep.unique {look' moment moment' : List ι} {j : ι} {other : String}
    {later tried' later' : List String} {task same : Task}
    (hfirst : TakenInStep calls look moment i agentId tried later task)
    (hsecond : TakenInStep calls look' moment' j other tried' later' same)
    (hid : task.id = same.id) (horder : moment ++ [i] <+: moment' ++ [j]) : i = j := by
  rcases List.prefix_concat_iff.1 horder with heq | hearlier
  · exact List.singleton_inj.1 (List.append_inj_right' heq rfl)
  · obtain ⟨hheld, hrunning⟩ := hfirst.takes.is_running
    obtain ⟨now, hnow, hstill⟩ := Sharing.run_onward calls hearlier task.id task hheld
    obtain ⟨waiting, hwaiting, hpending⟩ := hsecond.takes.was_pending
    rw [hid, hwaiting] at hnow
    cases hnow
    exact absurd hpending (hstill (by rw [hrunning]; exact TaskStatus.noConfusion))

/-- What claims give when any calls share a store and take their steps in any order. -/
structure ClaimsAreSafe (calls : ι → StoreCall) (schedule : List ι) : Prop where
  /-- No two claims come back with one task. -/
  once : ∀ i j agentId other task same, calls i = .claim agentId → calls j = .claim other →
    (Sharing.run calls schedule).stage i = .finished (.ok (some task)) →
    (Sharing.run calls schedule).stage j = .finished (.ok (some same)) → task.id = same.id → i = j
  /-- The step with which a claim comes back with a task takes it from the pending ones and changes
  nothing else; each candidate before that task the claim has tried in vain. -/
  taken : ∀ i agentId task, calls i = .claim agentId →
    (Sharing.run calls schedule).stage i = .finished (.ok (some task)) →
      ∃ look moment tried later, moment ++ [i] <+: schedule ∧
        TakenInStep calls look moment i agentId tried later task
  /-- A claim comes back with nothing only if it has tried all that was pending at its look in
  vain. -/
  nothing : ∀ i agentId, calls i = .claim agentId →
    (Sharing.run calls schedule).stage i = .finished (.ok none) →
      ∃ look, look ++ [i] <+: schedule ∧ (Sharing.run calls look).stage i = .start ∧
        ∀ id task, (Sharing.run calls look).store.findById? id = some task →
          task.status = .pending → TriedInVain calls look schedule i id
  /-- A claim comes back without an error, after one step for its look and at most one for each task
  that was pending then. -/
  ends : ∀ i agentId, calls i = .claim agentId →
    (∃ claimed, (Sharing.run calls schedule).stage i = .finished (.ok claimed)) ∨
    schedule.count i = 0 ∨
    ∃ look, look ++ [i] <+: schedule ∧ (Sharing.run calls look).stage i = .start ∧
      schedule.count i ≤ (Sharing.run calls look).store.candidates.length

/-- Claims are safe however far the store has moved on since they looked at it. -/
theorem claims_from_stale_looks (calls : ι → StoreCall) (schedule : List ι) :
    ClaimsAreSafe calls schedule := by
  refine ⟨?once, fun i agentId task hclaim hover => takenInStep hclaim hover, ?nothing, ?ends⟩
  case once =>
    intro i j agentId other task same hclaim hother hover hsame hid
    obtain ⟨_, _, _, _, hmoment, hfirst⟩ := takenInStep hclaim hover
    obtain ⟨_, _, _, _, hmoment', hsecond⟩ := takenInStep hother hsame
    rcases List.prefix_or_prefix_of_prefix hmoment hmoment' with hbefore | hbehind
    · exact hfirst.unique hsecond hid hbefore
    · exact (hsecond.unique hfirst hid.symm hbehind).symm
  case nothing =>
    intro i agentId hclaim hover
    have hhistory := claimHistory calls schedule hclaim
    rw [hover] at hhistory
    cases hhistory with
    | @exhausted look tried hgone =>
        refine ⟨look, hgone.looked, hgone.start, ?_⟩
        intro id task htask hpending
        have hcandidate := ((Sharing.run calls look).store.mem_candidates_iff id).2
          ⟨task, htask, hpending⟩
        rw [hgone.candidates, List.append_nil] at hcandidate
        exact hgone.inVain id hcandidate
  case ends =>
    intro i agentId hclaim
    have hhistory := claimHistory calls schedule hclaim
    generalize (Sharing.run calls schedule).stage i = stage at hhistory ⊢
    cases hhistory with
    | waiting hsteps => exact Or.inr (Or.inl hsteps)
    | exhausted | took => exact Or.inl ⟨_, rfl⟩
    | @trying look tried later id hgone hsteps =>
        refine Or.inr (Or.inr ⟨look, hgone.looked, hgone.start, ?_⟩)
        rw [hsteps, hgone.candidates, List.length_append, List.length_cons]
        omega

/-- Two agents look at a store with two tasks before either takes one, so the second one tries the
first task in vain. A third task that comes later is in nobody's candidates. -/
example :
    let calls : Fin 5 → StoreCall := ![.create (freshTask "a" 1), .create (freshTask "b" 0),
      .create (freshTask "c" 9), .claim "m", .claim "n"]
    let sharing := Sharing.run calls [0, 1, 3, 4, 2, 3, 4, 4]
    sharing.stage 3 = .finished (.ok (some (Task.claimedFor (freshTask "a" 1) "m"))) ∧
      sharing.stage 4 = .finished (.ok (some (Task.claimedFor (freshTask "b" 0) "n"))) := by
  cbv

end Muster.Store
