import Muster.Store.Error
import Muster.Store.Table
import Muster.Wire.Task
/-!
The store of tasks. Tasks are numbered in the order of their creation, and every list of them keeps
that order. Claiming looks at the pending tasks once and then tries them one by one, each in a single
conditional step, so that a task goes to one caller only.
-/
namespace Muster.Store

/-- Which tasks to list; what is absent does not restrict. -/
structure TaskFilter where
  status : Option TaskStatus
  priority : Option Int
deriving Repr, DecidableEq

def TaskFilter.all : TaskFilter :=
  ⟨none, none⟩

def TaskFilter.matches (filter : TaskFilter) (task : Task) : Bool :=
  filter.status.all (· = task.status) && filter.priority.all (· = task.priority)

/-- What a report changes. -/
structure TaskUpdate where
  status : TaskStatus
  output : Option String
  error : Option String
  exitCode : Option Int
deriving Repr, DecidableEq

def TaskUpdate.apply (update : TaskUpdate) (task : Task) : Task :=
  { task with
    status := update.status
    output := update.output
    error := update.error
    exitCode := update.exitCode }

/-- A task with the number of its creation. -/
structure NumberedTask where
  number : Nat
  task : Task
deriving DecidableEq

/-- Tasks by id, and the number of the next one. -/
structure TaskStore where
  tasks : Table String NumberedTask
  next : Nat

def TaskStore.empty : TaskStore :=
  ⟨Table.empty, 0⟩

instance : Inhabited TaskStore := ⟨TaskStore.empty⟩

def TaskStore.count (store : TaskStore) : Nat :=
  store.tasks.size

def TaskStore.findById? (store : TaskStore) (id : String) : Option Task :=
  (store.tasks.get? id).map NumberedTask.task

/-- The store with a new task, whose id must be free. -/
def TaskStore.create (store : TaskStore) (task : Task) : Except StoreError Unit × TaskStore :=
  if store.tasks.contains task.id then (.error .alreadyExists, store)
  else (.ok (), ⟨store.tasks.insert task.id ⟨store.next, task⟩, store.next + 1⟩)

/-- The tasks that pass a filter, in the order of creation. -/
def TaskStore.findAll (store : TaskStore) (filter : TaskFilter) : List Task :=
  let found := store.tasks.values.filter fun entry => filter.matches entry.task
  (found.mergeSort fun a b => a.number ≤ b.number).map NumberedTask.task

/-- The store behind a report, which must move the status forward. -/
def TaskStore.update (store : TaskStore) (id : String) (update : TaskUpdate) :
    Except StoreError Task × TaskStore :=
  match store.tasks.get? id with
  | none => (.error .notFound, store)
  | some ⟨number, task⟩ =>
      if task.status.canMoveTo update.status then
        let task := update.apply task
        (.ok task, { store with tasks := store.tasks.insert id ⟨number, task⟩ })
      else (.error (.invalidTransition task.status update.status), store)

/-- Does one task come before another in claiming? Higher priority first, then the older task. -/
def NumberedTask.precedes (a b : NumberedTask) : Bool :=
  b.task.priority < a.task.priority ||
    (a.task.priority = b.task.priority && a.number ≤ b.number)

/-- The ids of the pending tasks in the order in which they are to be claimed. -/
def TaskStore.candidates (store : TaskStore) : List String :=
  let pending := store.tasks.entries.filter fun entry => entry.2.task.status = .pending
  (pending.mergeSort fun a b => a.2.precedes b.2).map Prod.fst

/-- The task as it is when an agent has claimed it. -/
def Task.claimedFor (task : Task) (agentId : String) : Task :=
  { task with status := .running, claimedBy := some agentId }

/-- Claims one task for an agent if it is still pending. -/
def TaskStore.tryClaim (store : TaskStore) (agentId id : String) : Option Task × TaskStore :=
  match store.tasks.get? id with
  | none => (none, store)
  | some ⟨number, task⟩ =>
      if task.status = .pending then
        let task := Task.claimedFor task agentId
        (some task, { store with tasks := store.tasks.insert id ⟨number, task⟩ })
      else (none, store)

/-- Claims the first of some tasks that is still pending. -/
def TaskStore.claimFrom (agentId : String) : List String → TaskStore → Option Task × TaskStore
  | [], store => (none, store)
  | id :: rest, store =>
      match store.tryClaim agentId id with
      | (some task, store) => (some task, store)
      | (none, store) => claimFrom agentId rest store

def TaskStore.claimNext (store : TaskStore) (agentId : String) : Option Task × TaskStore :=
  claimFrom agentId store.candidates store

/-- Claims for one agent after the other, in turns, until nothing is pending; at most `fuel` tasks
are claimed. The ids of the claimed tasks come in the order of the claims. -/
def TaskStore.claimInTurns (agentOf : Nat → String) : Nat → TaskStore → List String × TaskStore
  | 0, store => ([], store)
  | fuel + 1, store =>
      match store.claimNext (agentOf fuel) with
      | (none, store) => ([], store)
      | (some task, store) =>
          let (rest, store) := claimInTurns agentOf fuel store
          (task.id :: rest, store)

end Muster.Store
