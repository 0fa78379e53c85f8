import Mathlib.Data.List.Induction
import Mathlib.Data.List.Nodup
import Muster.Proofs.TaskStoreSteps
/-!
The store of tasks as a list. The map that keeps the tasks has no order, and its entries may come in a
new one at every moment; the numbers of the tasks make up for that. So the store answers every call as
a plain list does to which new tasks are appended and in which tasks change at their places.
-/
namespace Muster.Store

/-- A call to the store. -/
inductive StoreCall
  | create (task : Task)
  | update (id : String) (update : TaskUpdate)
  | claim (agentId : String)

/-- The answer to a call, a task or none at all, and the store behind it. -/
def StoreCall.perform (store : TaskStore) :
    StoreCall → Except StoreError (Option Task) × TaskStore
  | .create task =>
      let (result, store) := store.create task
      (result.map fun _ => none, store)
  | .update id report =>
      let (result, store) := store.update id report
      (result.map some, store)
  | .claim agentId =>
      let (claimed, store) := store.claimNext agentId
      (.ok claimed, store)

/-- The list with a task at the place of the one that has its id. -/
def inPlace (task : Task) (tasks : List Task) : List Task :=
  tasks.map fun old => if old.id = task.id then task else old

/-- The first pending task that no pending task outranks. -/
def nextPending? (tasks : List Task) : Option Task :=
  tasks.find? fun task => task.status = .pending ∧
    ∀ other ∈ tasks, other.status = .pending → other.priority ≤ task.priority

/-- What a list answers to a call, and the list behind it. -/
def StoreCall.onList (tasks : List Task) : StoreCall → Except StoreError (Option Task) × List Task
  | .create task =>
      if ∃ old ∈ tasks, old.id = task.id then (.error .alreadyExists, tasks)
      else (.ok none, tasks ++ [task])
  | .update id report =>
      match tasks.find? fun task => task.id = id with
      | none => (.error .notFound, tasks)
      | some task =>
          if task.status.canMoveTo report.status then
            (.ok (some (report.apply task)), inPlace (report.apply task) tasks)
          else (.error (.invalidTransition task.status report.status), tasks)
  | .claim agentId =>
      match nextPending? tasks with
      | none => (.ok none, tasks)
      | some task =>
          (.ok (some (Task.claimedFor task agentId)), inPlace (Task.claimedFor task agentId) tasks)

def StoreCall.newId? : StoreCall → Option String
  | .create task => some task.id
  | .update .. | .claim _ => none

/-- The list behind some calls: every task that was created, in the order of creation. -/
def listAfter (calls : List StoreCall) : List Task :=
  calls.foldl (fun tasks call => (call.onList tasks).2) []

/-- The same store, but for the order in which its map goes through the entries. -/
structure TaskStore.Reordered (store other : TaskStore) : Prop where
  entries : other.tasks.entries.Perm store.tasks.entries
  next : other.next = store.next

/-- A store behind some calls. At every moment the map may go through its entries in another order. -/
inductive Reached : List StoreCall → TaskStore → Prop
  | start : Reached [] TaskStore.empty
  | called {calls : List StoreCall} {store : TaskStore} (hreached : Reached calls store)
      (call : StoreCall) : Reached (calls ++ [call]) (call.perform store).2
  | reordered {calls : List StoreCall} {store other : TaskStore} (hreached : Reached calls store)
      (hsame : store.Reordered other) : Reached calls other

/-- The list holds what the store holds, by the numbers of the tasks. -/
structure TaskStore.Lists (store : TaskStore) (entries : List NumberedTask) : Prop where
  ordered : entries.Pairwise fun a b => a.number < b.number
  held : ∀ id entry, store.tasks.get? id = some entry ↔ entry ∈ entries ∧ entry.task.id = id
  below : ∀ entry ∈ entries, entry.number < store.next

theorem TaskStore.lists_empty : TaskStore.empty.Lists [] := by
  refine ⟨List.Pairwise.nil, ?_, ?_⟩
  · intro id entry
    simp [TaskStore.empty]
  · intro entry hentry
    cases hentry

theorem TaskStore.Lists.reordered {store other : TaskStore} {entries : List NumberedTask}
    (hlists : store.Lists entries) (hsame : store.Reordered other) : other.Lists entries := by
  refine ⟨hlists.ordered, ?_, ?_⟩
  · intro id entry
    rw [← hlists.held, Table.get?_eq_some_iff, Table.get?_eq_some_iff]
    exact hsame.entries.mem_iff
  · rw [hsame.next]
    exact hlists.below

variable {store : TaskStore} {entries : List NumberedTask}

theorem TaskStore.Lists.unique (hlists : store.Lists entries) {a b : NumberedTask}
    (ha : a ∈ entries) (hb : b ∈ entries) (hsame : a.task.id = b.task.id) : a = b := by
  have hfirst := (hlists.held b.task.id a).2 ⟨ha, hsame⟩
  have hsecond := (hlists.held b.task.id b).2 ⟨hb, rfl⟩
  exact Option.some.inj (hfirst.symm.trans hsecond)

theorem TaskStore.Lists.nodup (hlists : store.Lists entries) : entries.Nodup := by
  refine hlists.ordered.imp ?_
  rintro a b hlt rfl
  exact Nat.lt_irrefl _ hlt

theorem TaskStore.Lists.ids_nodup (hlists : store.Lists entries) :
    (entries.map fun entry => entry.task.id).Nodup :=
  hlists.nodup.map_on fun _ ha _ hb hsame => hlists.unique ha hb hsame

/-- The map goes through the entries of the list, in some order. -/
theorem TaskStore.Lists.perm (hlists : store.Lists entries) :
    store.tasks.values.Perm entries := by
  have hids : store.tasks.values.map (fun entry => entry.task.id) =
      store.tasks.entries.map Prod.fst := by
    rw [Table.values, List.map_map]
    apply List.map_congr_left
    rintro ⟨id, entry⟩ hentry
    exact ((hlists.held id entry).1 ((Table.get?_eq_some_iff _ _ _).2 hentry)).2
  have hnodup : store.tasks.values.Nodup := by
    apply List.Nodup.of_map fun entry : NumberedTask => entry.task.id
    rw [hids]
    exact store.tasks.distinct
  rw [List.perm_ext_iff_of_nodup hnodup hlists.nodup]
  intro entry
  simp only [Table.values, List.mem_map, Prod.exists, exists_eq_right]
  constructor
  · rintro ⟨id, hentry⟩
    exact ((hlists.held id entry).1 ((Table.get?_eq_some_iff _ _ _).2 hentry)).1
  · intro hentry
    exact ⟨entry.task.id, (Table.get?_eq_some_iff _ _ _).1
      ((hlists.held entry.task.id entry).2 ⟨hentry, rfl⟩)⟩

/-- Sorting by the numbers undoes any order of the entries. -/
theorem mergeSort_eq_of_perm {found sorted : List NumberedTask}
    (hsorted : sorted.Pairwise fun a b => a.number < b.number) (hperm : found.Perm sorted) :
    found.mergeSort (fun a b => a.number ≤ b.number) = sorted := by
  have hleft : (found.mergeSort fun a b => a.number ≤ b.number).Pairwise
      fun a b => decide (a.number ≤ b.number) = true := by
    apply List.pairwise_mergeSort
    · intro a b c hab hbc
      simp only [decide_eq_true_eq] at *
      omega
    · intro a b
      simp only [Bool.or_eq_true, decide_eq_true_eq]
      omega
  have hright : sorted.Pairwise fun a b => decide (a.number ≤ b.number) = true :=
    hsorted.imp fun hlt => decide_eq_true (Nat.le_of_lt hlt)
  refine List.Perm.eq_of_pairwise ?_ hleft hright ((List.mergeSort_perm _ _).trans hperm)
  intro a b ha hb hab hba
  have ha := hperm.mem_iff.1 ((List.mergeSort_perm _ _).mem_iff.1 ha)
  simp only [decide_eq_true_eq] at hab hba
  have hnumbers : (sorted.map NumberedTask.number).Nodup :=
    List.pairwise_map.2 (hsorted.imp Nat.ne_of_lt)
  exact List.inj_on_of_nodup_map hnumbers ha hb (Nat.le_antisymm hab hba)

abbrev tasksOf (entries : List NumberedTask) : List Task :=
  entries.map NumberedTask.task

theorem TaskStore.Lists.findAll_eq (hlists : store.Lists entries) (filter : TaskFilter) :
    store.findAll filter = (tasksOf entries).filter filter.matches := by
  have hperm := hlists.perm.filter fun entry => filter.matches entry.task
  have hsorted := hlists.ordered.filter fun entry => filter.matches entry.task
  rw [TaskStore.findAll, mergeSort_eq_of_perm hsorted hperm, List.filter_map]
  rfl

theorem TaskStore.Lists.find?_eq_some_iff (hlists : store.Lists entries) (id : String)
    (task : Task) :
    (tasksOf entries).find? (fun task => task.id = id) = some task ↔
      ∃ number, store.tasks.get? id = some ⟨number, task⟩ := by
  constructor
  · intro hfind
    have hid : task.id = id := by simpa using List.find?_some hfind
    obtain ⟨entry, hentry, rfl⟩ := List.mem_map.1 (List.mem_of_find?_eq_some hfind)
    exact ⟨entry.number, (hlists.held id entry).2 ⟨hentry, hid⟩⟩
  · rintro ⟨number, hheld⟩
    obtain ⟨hentry, hid⟩ := (hlists.held id _).1 hheld
    cases hfind : (tasksOf entries).find? fun task => task.id = id with
    | none =>
        have habsent := List.find?_eq_none.1 hfind task (List.mem_map.2 ⟨_, hentry, rfl⟩)
        exact absurd hid (by simpa using habsent)
    | some found =>
        have hsame : found.id = id := by simpa using List.find?_some hfind
        obtain ⟨other, hother, rfl⟩ := List.mem_map.1 (List.mem_of_find?_eq_some hfind)
        rw [hlists.unique hother hentry (hsame.trans hid.symm)]

theorem TaskStore.Lists.find?_eq_none_iff (hlists : store.Lists entries) (id : String) :
    (tasksOf entries).find? (fun task => task.id = id) = none ↔ store.tasks.get? id = none := by
  rw [Option.eq_none_iff_forall_ne_some, Option.eq_none_iff_forall_ne_some]
  constructor
  · rintro habsent ⟨number, task⟩ hheld
    exact habsent task ((hlists.find?_eq_some_iff id task).2 ⟨number, hheld⟩)
  · intro habsent task hfind
    obtain ⟨number, hheld⟩ := (hlists.find?_eq_some_iff id task).1 hfind
    exact habsent _ hheld

theorem TaskStore.Lists.findById?_eq (hlists : store.Lists entries) (id : String) :
    store.findById? id = (tasksOf entries).find? fun task => task.id = id := by
  ext task
  rw [hlists.find?_eq_some_iff, TaskStore.findById?, Option.map_eq_some_iff]
  constructor
  · rintro ⟨⟨number, found⟩, hheld, rfl⟩
    exact ⟨number, hheld⟩
  · rintro ⟨number, hheld⟩
    exact ⟨⟨number, task⟩, hheld, rfl⟩

theorem TaskStore.Lists.findById?_eq_some_iff (hlists : store.Lists entries) (id : String)
    (task : Task) :
    store.findById? id = some task ↔ task ∈ tasksOf entries ∧ task.id = id := by
  rw [hlists.findById?_eq, hlists.find?_eq_some_iff, tasksOf, List.mem_map]
  constructor
  · rintro ⟨number, hheld⟩
    obtain ⟨hentry, hid⟩ := (hlists.held id _).1 hheld
    exact ⟨⟨_, hentry, rfl⟩, hid⟩
  · rintro ⟨⟨⟨number, found⟩, hentry, rfl⟩, hid⟩
    exact ⟨number, (hlists.held id _).2 ⟨hentry, hid⟩⟩

theorem TaskStore.Lists.taken_iff (hlists : store.Lists entries) (id : String) :
    id ∈ (tasksOf entries).map Task.id ↔ store.tasks.get? id ≠ none := by
  rw [← not_iff_not, not_not, ← hlists.find?_eq_none_iff, List.find?_eq_none]
  simp

theorem TaskStore.Lists.append (hlists : store.Lists entries) {task : Task}
    (hfree : store.tasks.get? task.id = none) :
    TaskStore.Lists { store.put task.id ⟨store.next, task⟩ with next := store.next + 1 }
      (entries ++ [⟨store.next, task⟩]) := by
  refine ⟨?_, ?_, ?_⟩
  · rw [List.pairwise_append]
    refine ⟨hlists.ordered, List.pairwise_singleton _ _, ?_⟩
    intro entry hentry new hnew
    rw [List.mem_singleton.1 hnew]
    exact hlists.below entry hentry
  · intro id entry
    simp only [TaskStore.put, Table.get?_insert, List.mem_append, List.mem_singleton]
    by_cases hid : id = task.id
    · subst hid
      rw [if_pos rfl]
      constructor
      · intro heq
        cases heq
        exact ⟨Or.inr rfl, rfl⟩
      · rintro ⟨hold | rfl, hsame⟩
        · have hheld := (hlists.held _ entry).2 ⟨hold, hsame⟩
          rw [hfree] at hheld
          cases hheld
        · rfl
    · rw [if_neg hid, hlists.held]
      constructor
      · rintro ⟨hold, hsame⟩
        exact ⟨Or.inl hold, hsame⟩
      · rintro ⟨hold | rfl, hsame⟩
        · exact ⟨hold, hsame⟩
        · exact absurd hsame.symm hid
  · intro entry hentry
    change entry.number < store.next + 1
    rcases List.mem_append.1 hentry with hold | hnew
    · exact Nat.lt_succ_of_lt (hlists.below entry hold)
    · rw [List.mem_singleton.1 hnew]
      exact Nat.lt_succ_self _

/-- The entry with a task in place of the one that has its id. -/
def NumberedTask.inPlace (task : Task) (old : NumberedTask) : NumberedTask :=
  if old.task.id = task.id then ⟨old.number, task⟩ else old

theorem NumberedTask.number_inPlace (task : Task) (old : NumberedTask) :
    (old.inPlace task).number = old.number := by
  simp only [NumberedTask.inPlace]
  split <;> rfl

theorem tasksOf_inPlace (task : Task) (entries : List NumberedTask) :
    tasksOf (entries.map (NumberedTask.inPlace task)) = inPlace task (tasksOf entries) := by
  simp only [tasksOf, inPlace, List.map_map]
  apply List.map_congr_left
  intro old _
  simp only [Function.comp, NumberedTask.inPlace]
  split <;> rfl

theorem TaskStore.Lists.inPlace (hlists : store.Lists entries) {task : Task}
    {old : NumberedTask} (hheld : store.tasks.get? task.id = some old) :
    (store.put task.id ⟨old.number, task⟩).Lists (entries.map (NumberedTask.inPlace task)) := by
  obtain ⟨hold, hsame⟩ := (hlists.held _ old).1 hheld
  refine ⟨?_, ?_, ?_⟩
  · rw [List.pairwise_map]
    refine hlists.ordered.imp ?_
    intro a b hlt
    rwa [NumberedTask.number_inPlace, NumberedTask.number_inPlace]
  · intro id entry
    simp only [TaskStore.put, Table.get?_insert, List.mem_map]
    by_cases hid : id = task.id
    · subst hid
      rw [if_pos rfl]
      constructor
      · intro heq
        cases heq
        exact ⟨⟨old, hold, if_pos hsame⟩, rfl⟩
      · rintro ⟨⟨found, hfound, rfl⟩, hentry⟩
        by_cases hplace : found.task.id = task.id
        · rw [hlists.unique hfound hold (hplace.trans hsame.symm), NumberedTask.inPlace,
            if_pos hsame]
        · rw [NumberedTask.inPlace, if_neg hplace] at hentry
          exact absurd hentry hplace
    · rw [if_neg hid, hlists.held]
      constructor
      · rintro ⟨hentry, rfl⟩
        exact ⟨⟨entry, hentry, if_neg hid⟩, rfl⟩
      · rintro ⟨⟨found, hfound, rfl⟩, rfl⟩
        by_cases hplace : found.task.id = task.id
        · rw [NumberedTask.inPlace, if_pos hplace] at hid
          exact absurd rfl hid
        · rw [NumberedTask.inPlace, if_neg hplace]
          exact ⟨hfound, rfl⟩
  · intro entry hentry
    obtain ⟨found, hfound, rfl⟩ := List.mem_map.1 hentry
    rw [NumberedTask.number_inPlace]
    exact hlists.below found hfound

theorem NumberedTask.precedes_iff (a b : NumberedTask) : a.precedes b = true ↔
    b.task.priority < a.task.priority ∨
      (a.task.priority = b.task.priority ∧ a.number ≤ b.number) := by
  simp only [precedes, Bool.or_eq_true, Bool.and_eq_true, decide_eq_true_eq]

/-- The candidates are the pending tasks, and the first one is before all others. -/
theorem TaskStore.candidates_cases (store : TaskStore) :
    (store.candidates = [] ∧ ∀ id entry, store.tasks.get? id = some entry →
      entry.task.status ≠ .pending) ∨
    ∃ id rest first, store.candidates = id :: rest ∧ store.tasks.get? id = some first ∧
      first.task.status = .pending ∧ ∀ other entry, store.tasks.get? other = some entry →
        entry.task.status = .pending → first.precedes entry = true := by
  let pending := store.tasks.entries.filter fun entry => entry.2.task.status = .pending
  let sorted := pending.mergeSort fun a b => a.2.precedes b.2
  have hcandidates : store.candidates = sorted.map Prod.fst := rfl
  have hmem : ∀ id entry, (id, entry) ∈ sorted ↔
      store.tasks.get? id = some entry ∧ entry.task.status = .pending := by
    intro id entry
    rw [(List.mergeSort_perm _ _).mem_iff, List.mem_filter, Table.get?_eq_some_iff]
    simp only [decide_eq_true_eq]
  have hsorted : sorted.Pairwise fun a b => a.2.precedes b.2 = true := by
    apply List.pairwise_mergeSort
    · intro a b c hab hbc
      rw [NumberedTask.precedes_iff] at *
      omega
    · intro a b
      rw [Bool.or_eq_true, NumberedTask.precedes_iff, NumberedTask.precedes_iff]
      omega
  rw [hcandidates]
  rcases hsplit : sorted with _ | ⟨⟨id, first⟩, rest⟩
  · refine Or.inl ⟨rfl, ?_⟩
    intro id entry hheld hpending
    have hin := (hmem id entry).2 ⟨hheld, hpending⟩
    rw [hsplit] at hin
    cases hin
  · rw [hsplit, List.pairwise_cons] at hsorted
    obtain ⟨hheld, hpending⟩ := (hmem id first).1 (hsplit ▸ List.mem_cons_self)
    refine Or.inr ⟨id, rest.map Prod.fst, first, rfl, hheld, hpending, ?_⟩
    intro other entry hother hentry
    have hin := (hmem other entry).2 ⟨hother, hentry⟩
    rw [hsplit] at hin
    rcases List.mem_cons.1 hin with hsame | hlater
    · cases hsame
      simp [NumberedTask.precedes]
    · exact hsorted.1 (other, entry) hlater

/-- A claim takes the pending task that comes first in the list among those of the highest
priority. -/
theorem TaskStore.Lists.claimNext_cases (hlists : store.Lists entries) (agentId : String) :
    (nextPending? (tasksOf entries) = none ∧ store.claimNext agentId = (none, store)) ∨
    ∃ number task, nextPending? (tasksOf entries) = some task ∧
      store.tasks.get? task.id = some ⟨number, task⟩ ∧
      store.claimNext agentId = (some (Task.claimedFor task agentId),
        store.put task.id ⟨number, Task.claimedFor task agentId⟩) := by
  rcases store.candidates_cases with ⟨hempty, hnone⟩ |
    ⟨id, rest, ⟨number, task⟩, hcandidates, hheld, hpending, hfirst⟩
  · refine Or.inl ⟨?_, by rw [TaskStore.claimNext, hempty, TaskStore.claimFrom]⟩
    rw [nextPending?, List.find?_eq_none]
    intro task htask hnext
    obtain ⟨entry, hentry, rfl⟩ := List.mem_map.1 htask
    have hheld := (hlists.held _ entry).2 ⟨hentry, rfl⟩
    exact hnone _ entry hheld (of_decide_eq_true hnext).1
  · obtain ⟨hentry, rfl⟩ := (hlists.held id _).1 hheld
    refine Or.inr ⟨number, task, ?_, hheld, ?_⟩
    · obtain ⟨before, after, hsplit⟩ := List.append_of_mem hentry
      rw [nextPending?, List.find?_eq_some_iff_append]
      refine ⟨decide_eq_true ⟨hpending, ?_⟩, tasksOf before, tasksOf after, ?_, ?_⟩
      · intro other hother hwaiting
        obtain ⟨rival, hrival, rfl⟩ := List.mem_map.1 hother
        have hbefore := hfirst _ rival ((hlists.held _ rival).2 ⟨hrival, rfl⟩) hwaiting
        simp only [NumberedTask.precedes_iff] at hbefore
        omega
      · rw [hsplit, tasksOf, List.map_append, List.map_cons]
      · intro other hother
        obtain ⟨older, holder, rfl⟩ := List.mem_map.1 hother
        have hin : older ∈ entries := hsplit ▸ List.mem_append_left _ holder
        simp only [Bool.not_eq_eq_eq_not, Bool.not_true, decide_eq_false_iff_not, not_and]
        intro hwaiting hhighest
        -- an older task of no lower priority would have come first
        have hbefore := hfirst _ older ((hlists.held _ older).2 ⟨hin, rfl⟩) hwaiting
        have hhigher := hhighest task (List.mem_map.2 ⟨_, hentry, rfl⟩) hpending
        have hordered := hlists.ordered
        rw [hsplit, List.pairwise_append] at hordered
        have hearlier := hordered.2.2 older holder ⟨number, task⟩ List.mem_cons_self
        simp only [NumberedTask.precedes_iff] at hbefore hearlier
        omega
    · have hwaiting : task.status = .pending := hpending
      simp only [TaskStore.claimNext, hcandidates, TaskStore.claimFrom, TaskStore.tryClaim, hheld,
        hwaiting, ↓reduceIte]
      rfl

/-- One call: store and list give the same answer, and the list still holds what the store holds. -/
theorem TaskStore.Lists.step (hlists : store.Lists entries) (call : StoreCall) :
    (call.perform store).1 = (call.onList (tasksOf entries)).1 ∧
      ∃ next, (call.perform store).2.Lists next ∧
        tasksOf next = (call.onList (tasksOf entries)).2 := by
  cases call with
  | create task =>
      have htaken : (∃ old ∈ tasksOf entries, old.id = task.id) ↔
          store.tasks.get? task.id ≠ none := List.mem_map.symm.trans (hlists.taken_iff task.id)
      simp only [StoreCall.perform, StoreCall.onList, htaken]
      rcases store.create_cases task with ⟨habsent, hcreate⟩ | ⟨htaken, hcreate⟩
      · rw [hcreate, if_neg (not_not.2 habsent)]
        exact ⟨rfl, _, hlists.append habsent, by simp [tasksOf]⟩
      · rw [hcreate, if_pos htaken]
        exact ⟨rfl, entries, hlists, rfl⟩
  | update id report =>
      simp only [StoreCall.perform, StoreCall.onList, TaskStore.update]
      cases hheld : store.tasks.get? id with
      | none =>
          rw [(hlists.find?_eq_none_iff id).2 hheld]
          exact ⟨rfl, entries, hlists, rfl⟩
      | some entry =>
          obtain ⟨number, task⟩ := entry
          rw [(hlists.find?_eq_some_iff id task).2 ⟨number, hheld⟩]
          cases hmove : task.status.canMoveTo report.status with
          | false =>
              simp only [hmove, Bool.false_eq_true, ↓reduceIte]
              exact ⟨rfl, entries, hlists, rfl⟩
          | true =>
              have hid : (report.apply task).id = id := ((hlists.held id _).1 hheld).2
              subst hid
              simp only [hmove, ↓reduceIte]
              exact ⟨rfl, _, hlists.inPlace hheld, tasksOf_inPlace _ _⟩
  | claim agentId =>
      simp only [StoreCall.perform, StoreCall.onList]
      rcases hlists.claimNext_cases agentId with ⟨hnone, hclaim⟩ |
        ⟨number, task, hnext, hheld, hclaim⟩
      · rw [hclaim, hnone]
        exact ⟨rfl, entries, hlists, rfl⟩
      · rw [hclaim, hnext]
        have hclaimed : store.tasks.get? (Task.claimedFor task agentId).id = some ⟨number, task⟩ :=
          hheld
        exact ⟨rfl, _, hlists.inPlace hclaimed, tasksOf_inPlace _ _⟩

/-- Behind any calls, and however often the entries come in another order, store and list agree. -/
theorem Reached.lists {calls : List StoreCall} (hreached : Reached calls store) :
    ∃ entries, store.Lists entries ∧ tasksOf entries = listAfter calls := by
  induction hreached with
  | start => exact ⟨[], TaskStore.lists_empty, rfl⟩
  | called _ call ih =>
      obtain ⟨entries, hlists, htasks⟩ := ih
      obtain ⟨-, next, hnext, hafter⟩ := hlists.step call
      refine ⟨next, hnext, ?_⟩
      rw [hafter, htasks, listAfter, listAfter, List.foldl_concat]
  | reordered _ hsame ih =>
      obtain ⟨entries, hlists, htasks⟩ := ih
      exact ⟨entries, hlists.reordered hsame, htasks⟩

theorem ids_inPlace (task : Task) (tasks : List Task) :
    (inPlace task tasks).map Task.id = tasks.map Task.id := by
  rw [inPlace, List.map_map]
  apply List.map_congr_left
  intro old _
  simp only [Function.comp]
  split
  · next hsame => exact hsame.symm
  · rfl

/-- Only a creation adds an id, behind the others, and only one that is new. -/
theorem ids_onList (tasks : List Task) (call : StoreCall) :
    (call.onList tasks).2.map Task.id =
      match call.newId? with
      | none => tasks.map Task.id
      | some id => if id ∈ tasks.map Task.id then tasks.map Task.id
          else tasks.map Task.id ++ [id] := by
  cases call with
  | create task =>
      simp only [StoreCall.onList, StoreCall.newId?, List.mem_map]
      split
      · rfl
      · rw [List.map_append, List.map_singleton]
  | update id report =>
      simp only [StoreCall.onList, StoreCall.newId?]
      split
      · rfl
      · split
        · exact ids_inPlace _ _
        · rfl
  | claim agentId =>
      simp only [StoreCall.onList, StoreCall.newId?]
      split
      · rfl
      · exact ids_inPlace _ _

theorem eraseDups_concat (ids : List String) (id : String) :
    (ids ++ [id]).eraseDups = if id ∈ ids then ids.eraseDups else ids.eraseDups ++ [id] := by
  rw [List.eraseDups_append, List.removeAll, List.filter_singleton]
  by_cases hknown : id ∈ ids
  · simp [hknown]
  · simp [hknown, List.eraseDups_cons]

theorem length_eraseDups_le (ids : List String) : ids.eraseDups.length ≤ ids.length := by
  induction ids using List.reverseRecOn with
  | nil => exact Nat.le_refl _
  | append_singleton ids id ih =>
      rw [eraseDups_concat, List.length_append]
      split
      · exact Nat.le_add_right_of_le ih
      · rw [List.length_append]
        exact Nat.add_le_add_right ih _

/-- The list has the ids that were created, in the order in which each came first. -/
theorem ids_listAfter (calls : List StoreCall) :
    (listAfter calls).map Task.id = (calls.filterMap StoreCall.newId?).eraseDups := by
  induction calls using List.reverseRecOn with
  | nil => rfl
  | append_singleton calls call ih =>
      rw [listAfter, List.foldl_concat, ids_onList, ← listAfter, List.filterMap_append]
      cases hnew : call.newId? with
      | none => simp [hnew, ih]
      | some id =>
          rw [List.filterMap_cons_some hnew, List.filterMap_nil, eraseDups_concat, ih]
          simp only [List.mem_eraseDups]

/-- Every task in the list has taken one number. -/
theorem Reached.next_eq {calls : List StoreCall} (hreached : Reached calls store) :
    store.next = (listAfter calls).length := by
  induction hreached with
  | start => rfl
  | @called calls store hreached call ih =>
      obtain ⟨entries, hlists, htasks⟩ := hreached.lists
      rw [listAfter, List.foldl_concat, ← listAfter, ← List.length_map Task.id, ids_onList]
      cases call with
      | create task =>
          have htaken : task.id ∈ (listAfter calls).map Task.id ↔
              store.tasks.get? task.id ≠ none := htasks ▸ hlists.taken_iff task.id
          simp only [StoreCall.perform, StoreCall.newId?, htaken]
          rcases store.create_cases task with ⟨habsent, hcreate⟩ | ⟨htaken, hcreate⟩
          · rw [hcreate, if_neg (not_not.2 habsent), List.length_append, List.length_map, ← ih]
            rfl
          · rw [hcreate, if_pos htaken, List.length_map, ← ih]
      | update id report =>
          simp only [StoreCall.perform, StoreCall.newId?, List.length_map]
          rcases store.update_cases id report with ⟨number, task, -, -, hupdate⟩ | ⟨error, hupdate⟩
          · rw [hupdate, ← ih]
            rfl
          · rw [hupdate, ← ih]
      | claim agentId =>
          simp only [StoreCall.perform, StoreCall.newId?, List.length_map]
          rcases store.claimNext_cases agentId with ⟨id, number, task, -, -, hclaim⟩ | hclaim
          · rw [hclaim, ← ih]
            rfl
          · rw [hclaim, ← ih]
  | reordered _ hsame ih => rw [hsame.next, ih]

theorem TaskFilter.matches_iff (filter : TaskFilter) (task : Task) :
    filter.matches task = true ↔ (∀ status, filter.status = some status → task.status = status) ∧
      ∀ priority, filter.priority = some priority → task.priority = priority := by
  obtain ⟨status?, priority?⟩ := filter
  simp only [TaskFilter.matches, Bool.and_eq_true, Option.all_eq_true, decide_eq_true_eq,
    @eq_comm _ task.status, @eq_comm _ task.priority]

theorem TaskFilter.matches_all (task : Task) : TaskFilter.all.matches task = true := rfl

/-- What a store owes to the calls made so far, whatever order its map has given to the entries. -/
structure TaskStore.KeepsOrder (calls : List StoreCall) (store : TaskStore) : Prop where
  listed : ∀ filter, store.findAll filter = (listAfter calls).filter filter.matches
  answers : ∀ call : StoreCall, (call.perform store).1 = (call.onList (listAfter calls)).1
  members : ∀ filter task, task ∈ store.findAll filter ↔ store.findById? task.id = some task ∧
    (∀ status, filter.status = some status → task.status = status) ∧
    ∀ priority, filter.priority = some priority → task.priority = priority
  once : ∀ filter, ((store.findAll filter).map Task.id).Nodup
  order : (store.findAll .all).map Task.id = (calls.filterMap StoreCall.newId?).eraseDups
  sublist : ∀ filter, (store.findAll filter).Sublist (store.findAll .all)
  byStatus : ∀ status priority, store.findAll ⟨some status, some priority⟩ =
    (store.findAll ⟨some status, none⟩).filter fun task => task.priority = priority
  byPriority : ∀ status priority, store.findAll ⟨some status, some priority⟩ =
    (store.findAll ⟨none, some priority⟩).filter fun task => task.status = status
  found : ∀ id task, store.findById? id = some task ↔ task ∈ store.findAll .all ∧ task.id = id
  taken : ∀ task, task.id ∈ (store.findAll .all).map Task.id →
    store.create task = (.error .alreadyExists, store)
  numbered : (calls.filterMap StoreCall.newId?).length < UInt64.size →
    store.next < UInt64.size

/-- The store of tasks is a list in the order of creation. -/
theorem store_keeps_creation_order {calls : List StoreCall} (hreached : Reached calls store) :
    store.KeepsOrder calls := by
  obtain ⟨entries, hlists, htasks⟩ := hreached.lists
  have hlisted : ∀ filter, store.findAll filter = (listAfter calls).filter filter.matches := by
    intro filter
    rw [hlists.findAll_eq, htasks]
  have hall : store.findAll .all = listAfter calls := by
    rw [hlisted, List.filter_eq_self]
    exact fun task _ => TaskFilter.matches_all task
  have hids : ((listAfter calls).map Task.id).Nodup := by
    rw [← htasks, tasksOf, List.map_map]
    exact hlists.ids_nodup
  have hfound : ∀ id task, store.findById? id = some task ↔
      task ∈ listAfter calls ∧ task.id = id := by
    intro id task
    rw [hlists.findById?_eq_some_iff, htasks]
  refine ⟨hlisted, ?answers, ?members, ?once, ?order, ?sublist, ?byStatus, ?byPriority, ?found,
    ?taken, ?numbered⟩
  case answers =>
    intro call
    rw [← htasks]
    exact (hlists.step call).1
  case members =>
    intro filter task
    rw [hlisted, List.mem_filter, TaskFilter.matches_iff, hfound]
    simp only [and_true]
  case once =>
    intro filter
    rw [hlisted]
    exact hids.sublist (List.filter_sublist.map Task.id)
  case order => rw [hall, ids_listAfter]
  case sublist =>
    intro filter
    rw [hall, hlisted]
    exact List.filter_sublist
  case byStatus =>
    intro status priority
    rw [hlisted, hlisted, List.filter_filter]
    apply List.filter_congr
    intro task _
    simp [TaskFilter.matches, Bool.and_comm, eq_comm]
  case byPriority =>
    intro status priority
    rw [hlisted, hlisted, List.filter_filter]
    apply List.filter_congr
    intro task _
    simp [TaskFilter.matches, eq_comm]
  case found =>
    intro id task
    rw [hall, hfound]
  case taken =>
    intro task htaken
    rw [hall, ← htasks, hlists.taken_iff] at htaken
    rcases store.create_cases task with ⟨habsent, -⟩ | ⟨-, hcreate⟩
    · exact absurd habsent htaken
    · exact hcreate
  case numbered =>
    intro hfew
    have hlength : (listAfter calls).length ≤ (calls.filterMap StoreCall.newId?).length := by
      rw [← List.length_map Task.id, ids_listAfter]
      exact length_eraseDups_le _
    rw [hreached.next_eq]
    omega

/-- The store whose map goes through its entries backwards. -/
def TaskStore.backwards (store : TaskStore) : TaskStore where
  tasks :=
    { entries := store.tasks.entries.reverse
      distinct := by
        rw [List.map_reverse]
        exact List.nodup_reverse.2 store.tasks.distinct }
  next := store.next

theorem TaskStore.reordered_backwards (store : TaskStore) : store.Reordered store.backwards :=
  ⟨List.reverse_perm _, rfl⟩

/-- A task as it is when it has just been created. -/
def freshTask (id : String) (priority : Int) : Task where
  id := id
  command := "true"
  priority := priority
  status := .pending
  output := none
  error := none
  exitCode := none
  claimedBy := none
  createdAt := Time.Instant.epoch

/-- Two creations, a claim of the newer task, and the older task's id once more. -/
theorem store_keeps_creation_order_of_two :
    let older := freshTask "b" 1
    let newer := freshTask "a" 5
    let created := ((StoreCall.create newer).perform
      ((StoreCall.create older).perform TaskStore.empty).2).2.backwards
    let claimed := ((StoreCall.create (freshTask "b" 9)).perform
      ((StoreCall.claim "m").perform created).2).2
    claimed.KeepsOrder [.create older, .create newer, .claim "m", .create (freshTask "b" 9)] ∧
      claimed.findAll .all = [older, Task.claimedFor newer "m"] := by
  intro older newer created claimed
  have hcreated : Reached [.create older, .create newer] created :=
    .reordered (.called (.called .start _) _) (TaskStore.reordered_backwards _)
  have hkept := store_keeps_creation_order
    (Reached.called (Reached.called hcreated (.claim "m")) (.create (freshTask "b" 9)))
  refine ⟨hkept, ?_⟩
  exact (hkept.listed .all).trans (by decide)

end Muster.Store
