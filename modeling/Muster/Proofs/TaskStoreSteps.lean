import Muster.Store.TaskStore
/-!
What each write to the store of tasks does, said once: which cases there are, and the store that each
of them leaves.
-/
namespace Muster.Store

def TaskStore.put (store : TaskStore) (id : String) (entry : NumberedTask) : TaskStore :=
  { store with tasks := store.tasks.insert id entry }

theorem TaskStore.findById?_put (store : TaskStore) (id key : String) (entry : NumberedTask) :
    (store.put id entry).findById? key =
      if key = id then some entry.task else store.findById? key := by
  simp only [findById?, put, Table.get?_insert]
  split <;> rfl

/-- Behind a change to one task, a task is the changed one or as it was. -/
theorem TaskStore.findById?_put_cases {store : TaskStore} {changed id : String} {number : Nat}
    {found task : Task} (hentry : store.tasks.get? changed = some ⟨number, found⟩)
    (htask : store.findById? id = some task) (entry : NumberedTask) :
    (changed = id ∧ found = task ∧ (store.put changed entry).findById? id = some entry.task) ∨
      (store.put changed entry).findById? id = some task := by
  rw [findById?_put]
  by_cases hsame : id = changed
  · subst hsame
    have hfound : found = task := by simpa [findById?, hentry] using htask
    exact Or.inl ⟨rfl, hfound, if_pos rfl⟩
  · exact Or.inr (by rw [if_neg hsame, htask])

theorem TaskStore.findById?_put_eq_none {store : TaskStore} {changed id : String}
    {old : NumberedTask} (hentry : store.tasks.get? changed = some old)
    (hnone : store.findById? id = none) (entry : NumberedTask) :
    (store.put changed entry).findById? id = none := by
  have hother : id ≠ changed := by
    rintro rfl
    simp [findById?, hentry] at hnone
  rw [findById?_put, if_neg hother, hnone]

/-- A new task takes the next number, and an id that is taken leaves the store as it was. -/
theorem TaskStore.create_cases (store : TaskStore) (task : Task) :
    (store.tasks.get? task.id = none ∧ store.create task =
      (.ok (), { store.put task.id ⟨store.next, task⟩ with next := store.next + 1 })) ∨
    (store.tasks.get? task.id ≠ none ∧ store.create task = (.error .alreadyExists, store)) := by
  cases hentry : store.tasks.get? task.id with
  | none => exact Or.inl ⟨rfl, by simp [create, Table.contains, hentry, put]⟩
  | some entry => exact Or.inr ⟨by simp, by simp [create, Table.contains, hentry]⟩

/-- A report on a task that is there either moves its status forward or is refused. -/
theorem TaskStore.update_cases (store : TaskStore) (id : String) (update : TaskUpdate) :
    (∃ number task, store.tasks.get? id = some ⟨number, task⟩ ∧
      task.status.canMoveTo update.status = true ∧
      store.update id update =
        (.ok (update.apply task), store.put id ⟨number, update.apply task⟩)) ∨
    ∃ error, store.update id update = (.error error, store) := by
  cases hentry : store.tasks.get? id with
  | none => exact Or.inr ⟨.notFound, by simp [TaskStore.update, hentry]⟩
  | some entry =>
      obtain ⟨number, task⟩ := entry
      cases hmove : task.status.canMoveTo update.status with
      | false =>
          exact Or.inr ⟨.invalidTransition task.status update.status,
            by simp [TaskStore.update, hentry, hmove]⟩
      | true =>
          exact Or.inl ⟨number, task, rfl, hmove,
            by simp [TaskStore.update, hentry, hmove, TaskStore.put]⟩

theorem TaskStore.tryClaim_cases (store : TaskStore) (agentId id : String) :
    (∃ number task, store.tasks.get? id = some ⟨number, task⟩ ∧ task.status = .pending ∧
      store.tryClaim agentId id =
        (some (Task.claimedFor task agentId),
          store.put id ⟨number, Task.claimedFor task agentId⟩)) ∨
    store.tryClaim agentId id = (none, store) := by
  cases hentry : store.tasks.get? id with
  | none => exact Or.inr (by simp [tryClaim, hentry])
  | some entry =>
      obtain ⟨number, task⟩ := entry
      by_cases hpending : task.status = .pending
      · exact Or.inl ⟨number, task, rfl, hpending, by simp [tryClaim, hentry, hpending, put]⟩
      · exact Or.inr (by simp [tryClaim, hentry, hpending])

/-- Whatever the candidates are, at most one task changes, and only from pending. -/
theorem TaskStore.claimFrom_cases (store : TaskStore) (agentId : String) (ids : List String) :
    (∃ id number task, store.tasks.get? id = some ⟨number, task⟩ ∧ task.status = .pending ∧
      claimFrom agentId ids store =
        (some (Task.claimedFor task agentId),
          store.put id ⟨number, Task.claimedFor task agentId⟩)) ∨
    claimFrom agentId ids store = (none, store) := by
  induction ids with
  | nil => exact Or.inr rfl
  | cons id rest ih =>
      rcases store.tryClaim_cases agentId id with
        ⟨number, task, hentry, hpending, hclaim⟩ | hclaim
      · exact Or.inl ⟨id, number, task, hentry, hpending, by simp [claimFrom, hclaim]⟩
      · simpa only [claimFrom, hclaim] using ih

theorem TaskStore.claimNext_cases (store : TaskStore) (agentId : String) :
    (∃ id number task, store.tasks.get? id = some ⟨number, task⟩ ∧ task.status = .pending ∧
      store.claimNext agentId =
        (some (Task.claimedFor task agentId),
          store.put id ⟨number, Task.claimedFor task agentId⟩)) ∨
    store.claimNext agentId = (none, store) :=
  store.claimFrom_cases agentId store.candidates

end Muster.Store
