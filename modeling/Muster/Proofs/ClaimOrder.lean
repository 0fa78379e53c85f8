import Mathlib.Data.List.Sort
import Muster.Proofs.CreationOrder
/-!
Claims that an agent makes one after the other until nothing is left. Every claim looks at the whole
map again and sorts what is pending, and still the claims take the tasks as from one list that was
sorted once: the higher priority first, and the older task among those of the same priority.
-/
namespace Muster.Store

/-- The pending tasks of a list in the order in which their turn comes. -/
def inTurn (tasks : List Task) : List Task :=
  (tasks.filter fun task => task.status = .pending).insertionSort fun a b => b.priority ≤ a.priority

/-- What an agent gets that claims until nothing is left. -/
def claimsOn (tasks : List Task) (agentId : String) : List Task :=
  (inTurn tasks).map fun task => Task.claimedFor task agentId

/-- One task has the higher priority, or the same one and stands earlier in the list. -/
def Earlier (tasks : List Task) (a b : Task) : Prop :=
  b.priority < a.priority ∨ (a.priority = b.priority ∧ [a, b].Sublist tasks)

theorem Earlier.mono {tasks longer : List Task} {a b : Task} (hearlier : Earlier tasks a b)
    (hsublist : tasks.Sublist longer) : Earlier longer a b :=
  hearlier.imp id fun ⟨hsame, hplaces⟩ => ⟨hsame, hplaces.trans hsublist⟩

theorem Earlier.priority_le {tasks : List Task} {a b : Task} (hearlier : Earlier tasks a b) :
    b.priority ≤ a.priority := by
  rcases hearlier with hhigher | ⟨hsame, -⟩
  · exact Int.le_of_lt hhigher
  · exact Int.le_of_eq hsame.symm

/-- A task that is put in front of a list goes before all that it outranks or equals. -/
theorem pairwise_orderedInsert {task : Task} {rest sorted : List Task}
    (hsorted : sorted.Pairwise (Earlier rest)) (hrest : ∀ other ∈ sorted, other ∈ rest) :
    (sorted.orderedInsert (fun a b => b.priority ≤ a.priority) task).Pairwise
      (Earlier (task :: rest)) := by
  induction sorted with
  | nil => exact List.pairwise_singleton _ _
  | cons first others ih =>
      obtain ⟨hfirst, hothers⟩ := List.pairwise_cons.1 hsorted
      rw [List.orderedInsert_cons]
      split
      · next hle =>
          refine List.pairwise_cons.2 ⟨?_, hsorted.imp fun h => h.mono (List.sublist_cons_self _ _)⟩
          intro other hother
          have hother_le : other.priority ≤ task.priority := by
            rcases List.mem_cons.1 hother with rfl | hlater
            · exact hle
            · exact Int.le_trans (hfirst other hlater).priority_le hle
          rcases Int.lt_or_eq_of_le hother_le with hlt | heq
          · exact Or.inl hlt
          · refine Or.inr ⟨heq.symm, List.Sublist.cons_cons task ?_⟩
            exact List.singleton_sublist.2 (hrest other hother)
      · next hlt =>
          refine List.pairwise_cons.2
            ⟨?_, ih hothers fun other hother => hrest other (List.mem_cons_of_mem first hother)⟩
          intro other hother
          rcases (List.mem_orderedInsert _).1 hother with rfl | hlater
          · exact Or.inl (Int.not_le.1 hlt)
          · exact (hfirst other hlater).mono (List.sublist_cons_self _ _)

theorem pairwise_insertionSort_priority (tasks : List Task) :
    (tasks.insertionSort fun a b => b.priority ≤ a.priority).Pairwise (Earlier tasks) := by
  induction tasks with
  | nil => exact List.Pairwise.nil
  | cons task rest ih =>
      rw [List.insertionSort_cons]
      exact pairwise_orderedInsert ih fun other hother => (List.mem_insertionSort _).1 hother

section
variable (tasks : List Task)

theorem perm_inTurn : (inTurn tasks).Perm (tasks.filter fun task => task.status = .pending) :=
  List.perm_insertionSort _ _

theorem mem_inTurn (task : Task) :
    task ∈ inTurn tasks ↔ task ∈ tasks ∧ task.status = .pending := by
  rw [(perm_inTurn tasks).mem_iff, List.mem_filter, decide_eq_true_eq]

theorem pairwise_inTurn : (inTurn tasks).Pairwise (Earlier tasks) :=
  (pairwise_insertionSort_priority _).imp fun hearlier => hearlier.mono List.filter_sublist

end

/-- Sorting brings a task to the front that outranks what stands before it and is outranked by
nothing. -/
theorem insertionSort_append_cons {task : Task} (before after : List Task)
    (hbefore : ∀ other ∈ before, other.priority < task.priority)
    (hafter : ∀ other ∈ after, other.priority ≤ task.priority) :
    (before ++ task :: after).insertionSort (fun a b => b.priority ≤ a.priority) =
      task :: (before ++ after).insertionSort fun a b => b.priority ≤ a.priority := by
  induction before with
  | nil => exact List.insertionSort_cons_of_forall_rel _ hafter
  | cons first others ih =>
      have hlower := hbefore first List.mem_cons_self
      rw [List.cons_append, List.insertionSort_cons,
        ih fun other hother => hbefore other (List.mem_cons_of_mem first hother),
        List.orderedInsert_cons, if_neg (Int.not_le.2 hlower), List.cons_append,
        List.insertionSort_cons]

/-- In a list without repeated ids, a change to one task leaves the others as they are. -/
theorem inPlace_append_cons {task changed : Task} {before after : List Task}
    (hids : ((before ++ task :: after).map Task.id).Nodup) (hsame : changed.id = task.id) :
    inPlace changed (before ++ task :: after) = before ++ changed :: after := by
  have hothers : ∀ other ∈ before ++ after, other.id ≠ task.id := by
    rw [List.map_append, List.map_cons, List.nodup_middle, List.nodup_cons,
      ← List.map_append] at hids
    intro other hother hid
    exact hids.1 (hid ▸ List.mem_map_of_mem hother)
  have hkept : ∀ part : List Task, (∀ other ∈ part, other.id ≠ task.id) →
      inPlace changed part = part := by
    intro part hpart
    refine (List.map_congr_left fun other hother => ?_).trans (List.map_id part)
    exact if_neg fun hid => hpart other hother (hid.trans hsame)
  rw [inPlace, List.map_append, List.map_cons, if_pos hsame.symm]
  congr 1
  · exact hkept before fun other hother => hothers other (List.mem_append_left _ hother)
  · congr 1
    exact hkept after fun other hother => hothers other (List.mem_append_right _ hother)

/-- The next task to be claimed is the first one in turn, and behind the claim the turn has come to
the one after it. -/
theorem inTurn_cases {tasks : List Task} (hids : (tasks.map Task.id).Nodup) (agentId : String) :
    (nextPending? tasks = none ∧ inTurn tasks = []) ∨
    ∃ task, nextPending? tasks = some task ∧
      inTurn tasks = task :: inTurn (inPlace (Task.claimedFor task agentId) tasks) := by
  cases hnext : nextPending? tasks with
  | none =>
      refine Or.inl ⟨rfl, ?_⟩
      cases hturn : inTurn tasks with
      | nil => rfl
      | cons first rest =>
          have hin := (mem_inTurn tasks first).1 (hturn ▸ List.mem_cons_self)
          have hsorted := List.pairwise_cons.1 (hturn ▸ pairwise_inTurn tasks)
          have hrefused := List.find?_eq_none.1 hnext first hin.1
          refine absurd (decide_eq_true ⟨hin.2, ?_⟩) hrefused
          intro other hother hpending
          have hturned := (mem_inTurn tasks other).2 ⟨hother, hpending⟩
          rw [hturn] at hturned
          rcases List.mem_cons.1 hturned with rfl | hlater
          · exact Int.le_refl _
          · exact (hsorted.1 other hlater).priority_le
  | some task =>
      refine Or.inr ⟨task, rfl, ?_⟩
      obtain ⟨hfound, before, after, rfl, hskipped⟩ := List.find?_eq_some_iff_append.1 hnext
      obtain ⟨hpending, hhighest⟩ := of_decide_eq_true hfound
      have hbefore : ∀ other ∈ before.filter fun task => task.status = .pending,
          other.priority < task.priority := by
        intro other hother
        obtain ⟨hin, hwaiting⟩ := List.mem_filter.1 hother
        have hwaiting := of_decide_eq_true hwaiting
        have hle := hhighest other (List.mem_append_left _ hin) hwaiting
        refine lt_of_le_of_ne hle fun hsame => ?_
        -- as high as the highest, it would have been found first
        have hpassed := hskipped other hin
        simp only [Bool.not_eq_eq_eq_not, Bool.not_true, decide_eq_false_iff_not] at hpassed
        exact hpassed ⟨hwaiting, fun rival hrival hpending =>
          hsame ▸ hhighest rival hrival hpending⟩
      have hafter : ∀ other ∈ after.filter fun task => task.status = .pending,
          other.priority ≤ task.priority := by
        intro other hother
        obtain ⟨hin, hwaiting⟩ := List.mem_filter.1 hother
        exact hhighest other (List.mem_append_right _ (List.mem_cons_of_mem _ hin))
          (of_decide_eq_true hwaiting)
      have hplace : inPlace (Task.claimedFor task agentId) (before ++ task :: after) =
          before ++ Task.claimedFor task agentId :: after := inPlace_append_cons hids rfl
      have hclaimed : ¬ decide ((Task.claimedFor task agentId).status = .pending) = true := by
        simp [Task.claimedFor]
      rw [hplace, inTurn, inTurn, List.filter_append, List.filter_append,
        List.filter_cons, if_pos (decide_eq_true hpending), List.filter_cons, if_neg hclaimed]
      exact insertionSort_append_cons _ _ hbefore hafter

/-- The task as it is behind the claims of an agent that have taken some tasks. -/
def Task.ifTaken (taken : List Task) (agentId : String) (task : Task) : Task :=
  if task ∈ taken then Task.claimedFor task agentId else task

/-- The tasks that were listed, some of them claimed, and what is still to come in turn. -/
structure TakenInTurn (agentId : String) (tasks taken now : List Task) : Prop where
  turn : inTurn tasks = taken ++ inTurn now
  tasks : now = tasks.map (Task.ifTaken taken agentId)

theorem takenInTurn_nil (agentId : String) (tasks : List Task) :
    TakenInTurn agentId tasks [] tasks := by
  refine ⟨rfl, (List.map_id tasks).symm.trans (List.map_congr_left fun task _ => ?_)⟩
  exact (if_neg List.not_mem_nil).symm

/-- A task that can still be claimed was there in the beginning, as it is now. -/
theorem TakenInTurn.mem {agentId : String} {tasks taken now : List Task}
    (hturn : TakenInTurn agentId tasks taken now) {task : Task} (htask : task ∈ inTurn now) :
    task ∈ tasks := by
  obtain ⟨hin, hpending⟩ := (mem_inTurn now task).1 htask
  rw [hturn.tasks] at hin
  obtain ⟨old, hold, rfl⟩ := List.mem_map.1 hin
  by_cases htaken : old ∈ taken
  · rw [Task.ifTaken, if_pos htaken] at hpending
    cases hpending
  · rwa [Task.ifTaken, if_neg htaken]

theorem TakenInTurn.claim {agentId : String} {tasks taken now : List Task}
    (hids : (tasks.map Task.id).Nodup) (hturn : TakenInTurn agentId tasks taken now) {task : Task}
    (hnext : inTurn now = task :: inTurn (inPlace (Task.claimedFor task agentId) now)) :
    TakenInTurn agentId tasks (taken ++ [task])
      (inPlace (Task.claimedFor task agentId) now) := by
  have htask := hturn.mem (hnext ▸ List.mem_cons_self)
  refine ⟨?_, ?_⟩
  · rw [hturn.turn, hnext, List.append_assoc, List.singleton_append, ← hnext]
  · rw [hturn.tasks, inPlace, List.map_map]
    apply List.map_congr_left
    intro old hold
    have hsame : old.id = task.id ↔ old = task :=
      ⟨fun hid => List.inj_on_of_nodup_map hids hold htask hid, fun h => h ▸ rfl⟩
    have hid : (Task.ifTaken taken agentId old).id = old.id := by
      rw [Task.ifTaken]
      split <;> rfl
    simp only [Function.comp, hid, Task.claimedFor, hsame]
    by_cases heq : old = task
    · subst heq
      rw [if_pos rfl, Task.ifTaken, if_pos (List.mem_append_right _ List.mem_cons_self),
        Task.claimedFor]
    · have hmem : old ∈ taken ++ [task] ↔ old ∈ taken := by simp [heq]
      simp only [if_neg heq, Task.ifTaken, hmem]

/-- Claims of one agent on a store, and the store behind them. Between two claims the map may come
to go through its entries in another order. -/
inductive TaskStore.Claims (agentId : String) (store : TaskStore) : List Task → TaskStore → Prop
  | start : Claims agentId store [] store
  | claimed {claimed : List Task} {now next : TaskStore} {task : Task}
      (hclaims : Claims agentId store claimed now)
      (hclaim : now.claimNext agentId = (some task, next)) :
      Claims agentId store (claimed ++ [task]) next
  | reordered {claimed : List Task} {now other : TaskStore}
      (hclaims : Claims agentId store claimed now) (hsame : now.Reordered other) :
      Claims agentId store claimed other

variable {store now : TaskStore} {entries : List NumberedTask} {agentId : String}
  {claimed : List Task} {calls : List StoreCall}

theorem TaskStore.Lists.tasks_nodup (hlists : store.Lists entries) :
    ((tasksOf entries).map Task.id).Nodup := by
  rw [tasksOf, List.map_map]
  exact hlists.ids_nodup

/-- A claim takes the first task in turn, and behind it the turn has come to the one after it. -/
theorem TaskStore.Lists.claimNext_inTurn (hlists : store.Lists entries) (agentId : String) :
    (inTurn (tasksOf entries) = [] ∧ store.claimNext agentId = (none, store)) ∨
    ∃ task next after, store.claimNext agentId = (some (Task.claimedFor task agentId), next) ∧
      next.Lists after ∧
      tasksOf after = Store.inPlace (Task.claimedFor task agentId) (tasksOf entries) ∧
      inTurn (tasksOf entries) = task :: inTurn (tasksOf after) := by
  rcases inTurn_cases hlists.tasks_nodup agentId with ⟨hnone, hturn⟩ | ⟨task, hnext, hturn⟩
  · rcases hlists.claimNext_cases agentId with ⟨-, hclaim⟩ | ⟨number, task, hnext, -, -⟩
    · exact Or.inl ⟨hturn, hclaim⟩
    · cases hnone.symm.trans hnext
  · rcases hlists.claimNext_cases agentId with ⟨hnone, -⟩ | ⟨number, first, hfirst, hheld, hclaim⟩
    · cases hnone.symm.trans hnext
    · cases hnext.symm.trans hfirst
      have hplace : store.tasks.get? (Task.claimedFor task agentId).id = some ⟨number, task⟩ :=
        hheld
      refine Or.inr ⟨task, _, _, hclaim, hlists.inPlace hplace, tasksOf_inPlace _ _, ?_⟩
      rw [tasksOf_inPlace, hturn]

theorem TaskStore.Lists.claimNext_eq (hlists : store.Lists entries) (agentId : String) :
    (store.claimNext agentId).1 = (claimsOn (tasksOf entries) agentId).head? := by
  rcases hlists.claimNext_inTurn agentId with ⟨hturn, hclaim⟩ |
    ⟨task, next, after, hclaim, -, -, hturn⟩
  · rw [hclaim, claimsOn, hturn, List.map_nil, List.head?_nil]
  · rw [hclaim, claimsOn, hturn, List.map_cons, List.head?_cons]

/-- However the claims of an agent run, they take the tasks in turn. -/
theorem TaskStore.Claims.takenInTurn (hclaims : store.Claims agentId claimed now)
    (hlists : store.Lists entries) :
    ∃ taken after, claimed = taken.map (Task.claimedFor · agentId) ∧ now.Lists after ∧
      TakenInTurn agentId (tasksOf entries) taken (tasksOf after) := by
  induction hclaims with
  | start => exact ⟨[], entries, rfl, hlists, takenInTurn_nil _ _⟩
  | @claimed claimed now next task _ hclaim ih =>
      obtain ⟨taken, after, rfl, hafter, hturn⟩ := ih
      rcases hafter.claimNext_inTurn agentId with ⟨-, hnone⟩ |
        ⟨first, _, later, hsome, hlater, hplace, hnext⟩
      · cases hclaim.symm.trans hnone
      · cases hclaim.symm.trans hsome
        refine ⟨taken ++ [first], later, ?_, hlater, ?_⟩
        · rw [List.map_append, List.map_singleton]
        · rw [hplace] at hnext ⊢
          exact hturn.claim hlists.tasks_nodup hnext
  | reordered _ hsame ih =>
      obtain ⟨taken, after, htaken, hafter, hturn⟩ := ih
      exact ⟨taken, after, htaken, hafter.reordered hsame, hturn⟩

/-- The task as it is when an agent has claimed whatever was pending. -/
def Task.ifPending (agentId : String) (task : Task) : Task :=
  if task.status = .pending then Task.claimedFor task agentId else task

/-- What an agent has got, and what it leaves, when its claims have come to their end. -/
structure TaskStore.ClaimedOut (calls : List StoreCall) (agentId : String) (store : TaskStore)
    (claimed : List Task) (now : TaskStore) : Prop where
  all : claimed.Perm ((store.findAll ⟨some .pending, none⟩).map (Task.claimedFor · agentId))
  once : (claimed.map Task.id).Nodup
  each : ∀ task ∈ claimed, ∃ old, store.findById? task.id = some old ∧ old.status = .pending ∧
    task = { old with status := .running, claimedBy := some agentId }
  order : claimed.Pairwise fun a b => b.priority < a.priority ∨
    (a.priority = b.priority ∧ [a.id, b.id].Sublist (calls.filterMap StoreCall.newId?).eraseDups)
  listed : now.findAll .all = (store.findAll .all).map (Task.ifPending agentId)
  found : ∀ id, now.findById? id = (store.findById? id).map (Task.ifPending agentId)

/-- What the claims of an agent give, up to any moment of them, and at their end. -/
structure TaskStore.ClaimsInTurn (calls : List StoreCall) (agentId : String) (store : TaskStore)
    (claimed : List Task) (now : TaskStore) : Prop where
  sofar : claimed = (claimsOn (store.findAll .all) agentId).take claimed.length
  next : (now.claimNext agentId).1 = (claimsOn (store.findAll .all) agentId)[claimed.length]?
  ends : (now.claimNext agentId).1 = none ↔
    claimed.length = (store.findAll ⟨some .pending, none⟩).length
  atEnd : (now.claimNext agentId).1 = none → store.ClaimedOut calls agentId claimed now
  anyOrder : ∀ other otherClaimed otherNow, Reached calls other →
    other.Claims agentId otherClaimed otherNow → otherClaimed.length = claimed.length →
    otherClaimed = claimed ∧ (otherNow.claimNext agentId).1 = (now.claimNext agentId).1 ∧
      ∀ filter, otherNow.findAll filter = now.findAll filter

theorem TakenInTurn.taken_eq {tasks taken now : List Task}
    (hturn : TakenInTurn agentId tasks taken now) : taken = (inTurn tasks).take taken.length := by
  rw [hturn.turn, List.take_left]

theorem TaskStore.Lists.findAll_pending (hlists : store.Lists entries) :
    store.findAll ⟨some .pending, none⟩ =
      (tasksOf entries).filter fun task => task.status = .pending := by
  rw [hlists.findAll_eq]
  apply List.filter_congr
  intro task _
  simp [TaskFilter.matches, eq_comm]

theorem TaskStore.Lists.findAll_all (hlists : store.Lists entries) :
    store.findAll .all = tasksOf entries := by
  rw [hlists.findAll_eq, List.filter_eq_self]
  exact fun task _ => TaskFilter.matches_all task

theorem claimedOut_of_takenInTurn {taken : List Task} {after : List NumberedTask}
    (hlists : store.Lists entries) (htasks : tasksOf entries = listAfter calls)
    (hafter : now.Lists after) (hturn : TakenInTurn agentId (tasksOf entries) taken (tasksOf after))
    (hend : inTurn (tasksOf after) = []) :
    store.ClaimedOut calls agentId (taken.map (Task.claimedFor · agentId)) now := by
  have htaken : taken = inTurn (tasksOf entries) := by
    rw [hturn.turn, hend, List.append_nil]
  have hids : (taken.map (Task.claimedFor · agentId)).map Task.id = taken.map Task.id := by
    rw [List.map_map]
    rfl
  have hpending : tasksOf after = (tasksOf entries).map (Task.ifPending agentId) := by
    rw [hturn.tasks]
    apply List.map_congr_left
    intro task htask
    have hmem : task ∈ taken ↔ task.status = .pending := by
      rw [htaken, mem_inTurn]
      exact and_iff_right htask
    simp only [Task.ifTaken, Task.ifPending, hmem]
  refine ⟨?all, ?once, ?each, ?order, ?listed, ?found⟩
  case all =>
    rw [hlists.findAll_pending, htaken]
    exact (perm_inTurn _).map _
  case once =>
    rw [hids, htaken, ((perm_inTurn _).map Task.id).nodup_iff]
    exact hlists.tasks_nodup.sublist (List.filter_sublist.map _)
  case each =>
    intro task htask
    obtain ⟨old, hold, rfl⟩ := List.mem_map.1 htask
    obtain ⟨hin, hwaiting⟩ := (mem_inTurn _ old).1 (htaken ▸ hold)
    exact ⟨old, (hlists.findById?_eq_some_iff _ _).2 ⟨hin, rfl⟩, hwaiting, rfl⟩
  case order =>
    rw [List.pairwise_map, htaken, ← ids_listAfter, ← htasks]
    refine (pairwise_inTurn _).imp ?_
    rintro a b (hhigher | ⟨hsame, hplaces⟩)
    · exact Or.inl hhigher
    · exact Or.inr ⟨hsame, hplaces.map Task.id⟩
  case listed => rw [hlists.findAll_all, hafter.findAll_all, hpending]
  case found =>
    intro id
    rw [hlists.findById?_eq, hafter.findById?_eq, hpending, List.find?_map]
    congr 1
    apply congrArg (List.find? · _)
    funext task
    simp only [Function.comp, Task.ifPending]
    split <;> rfl

/-- Wherever the claims of an agent stand, they have taken the tasks in turn. -/
theorem TaskStore.Claims.follow_turn (hreached : Reached calls store)
    (hclaims : store.Claims agentId claimed now) :
    store.ClaimsInTurn calls agentId claimed now := by
  obtain ⟨entries, hlists, htasks⟩ := hreached.lists
  obtain ⟨taken, after, rfl, hafter, hturn⟩ := hclaims.takenInTurn hlists
  have hnext : (now.claimNext agentId).1 =
      (claimsOn (tasksOf entries) agentId)[taken.length]? := by
    rw [hafter.claimNext_eq, claimsOn, claimsOn, hturn.turn, List.map_append,
      List.getElem?_append_right (Nat.le_of_eq (List.length_map _)), List.length_map, Nat.sub_self,
      List.head?_eq_getElem?]
  have hleft : (now.claimNext agentId).1 = none ↔ inTurn (tasksOf after) = [] := by
    rw [hafter.claimNext_eq, List.head?_eq_none_iff, claimsOn, List.map_eq_nil_iff]
  refine ⟨?sofar, ?next, ?ends, ?atEnd, ?anyOrder⟩
  case sofar =>
    rw [hlists.findAll_all, claimsOn, List.length_map, ← List.map_take, ← hturn.taken_eq]
  case next => rw [hlists.findAll_all, List.length_map, hnext]
  case ends =>
    rw [hleft, hlists.findAll_pending, ← (perm_inTurn _).length_eq, hturn.turn, List.length_map,
      List.length_append, ← List.length_eq_zero_iff]
    omega
  case atEnd =>
    intro hend
    exact claimedOut_of_takenInTurn hlists htasks hafter hturn (hleft.1 hend)
  case anyOrder =>
    intro other otherClaimed otherNow hother hotherClaims hlength
    obtain ⟨otherEntries, hotherLists, hotherTasks⟩ := hother.lists
    obtain ⟨otherTaken, otherAfter, rfl, hotherAfter, hotherTurn⟩ :=
      hotherClaims.takenInTurn hotherLists
    rw [hotherTasks, ← htasks] at hotherTurn
    rw [List.length_map, List.length_map] at hlength
    have htaken : otherTaken = taken := by
      rw [hotherTurn.taken_eq, hlength, ← hturn.taken_eq]
    subst htaken
    have hsame : tasksOf otherAfter = tasksOf after := hotherTurn.tasks.trans hturn.tasks.symm
    refine ⟨rfl, ?_, ?_⟩
    · rw [hotherAfter.claimNext_eq, hafter.claimNext_eq, hsame]
    · intro filter
      rw [hotherAfter.findAll_eq, hafter.findAll_eq, hsame]

/-- The claims of an agent come to an end. The induction is on the number of tasks still in turn. -/
theorem TaskStore.Claims.exists_end (hreached : Reached calls store) {left : Nat}
    (hclaims : store.Claims agentId claimed now)
    (hleft : (claimsOn (store.findAll .all) agentId).length = claimed.length + left) :
    ∃ all last, store.Claims agentId all last ∧ (last.claimNext agentId).1 = none := by
  induction left generalizing claimed now with
  | zero =>
      refine ⟨claimed, now, hclaims, ?_⟩
      rw [(hclaims.follow_turn hreached).next]
      exact List.getElem?_eq_none (Nat.le_of_eq hleft)
  | succ left ih =>
      have hshort : claimed.length < (claimsOn (store.findAll .all) agentId).length := by omega
      have hnext := (hclaims.follow_turn hreached).next
      rw [List.getElem?_eq_getElem hshort] at hnext
      refine ih (hclaims.claimed (Prod.ext hnext rfl)) ?_
      rw [hleft, List.length_append, List.length_singleton, Nat.add_right_comm, Nat.add_assoc]

/-- A store of tasks hands them out in turn, until none is pending. -/
theorem claims_come_in_turn (hreached : Reached calls store) (agentId : String) :
    (∃ claimed now, store.Claims agentId claimed now ∧ (now.claimNext agentId).1 = none) ∧
      ∀ claimed now, store.Claims agentId claimed now →
        store.ClaimsInTurn calls agentId claimed now :=
  ⟨TaskStore.Claims.start.exists_end hreached (Nat.zero_add _).symm,
    fun _ _ hclaims => hclaims.follow_turn hreached⟩

theorem Reached.findAll_all (hreached : Reached calls store) :
    store.findAll .all = listAfter calls := by
  obtain ⟨entries, hlists, htasks⟩ := hreached.lists
  rw [hlists.findAll_all, htasks]

/-- The least and the greatest priority, two tasks of the same one, and one task that another agent
has claimed already. -/
theorem claims_come_in_turn_of_four :
    let least := freshTask "a" (-9223372036854775808)
    let greatest := freshTask "b" 9223372036854775807
    let older := freshTask "d" (-1)
    let newer := freshTask "c" (-1)
    let calls := [StoreCall.create least, .create greatest, .create older, .create newer,
      .claim "z"]
    let store := (calls.foldl (fun store call => (call.perform store).2) TaskStore.empty).backwards
    ∃ now, store.ClaimedOut calls "m"
        ([older, newer, least].map fun task => Task.claimedFor task "m") now ∧
      now.findAll .all = [Task.claimedFor least "m", Task.claimedFor greatest "z",
        Task.claimedFor older "m", Task.claimedFor newer "m"] := by
  intro least greatest older newer calls store
  have hreached : Reached calls store :=
    .reordered (.called (.called (.called (.called (.called .start _) _) _) _) _)
      (TaskStore.reordered_backwards _)
  have hturn : claimsOn (store.findAll .all) "m" =
      [older, newer, least].map fun task => Task.claimedFor task "m" := by
    rw [hreached.findAll_all]
    decide
  obtain ⟨⟨claimed, now, hclaims, hend⟩, hall⟩ := claims_come_in_turn hreached "m"
  have hkept := hall claimed now hclaims
  have hnone := hkept.next.symm.trans hend
  have hclaimed : claimed = [older, newer, least].map fun task => Task.claimedFor task "m" := by
    rw [hkept.sofar, List.take_of_length_le (List.getElem?_eq_none_iff.1 hnone), hturn]
  have hout := hclaimed ▸ hkept.atEnd hend
  refine ⟨now, hout, ?_⟩
  rw [hout.listed, hreached.findAll_all]
  decide

end Muster.Store
