/-!
Tables: finite maps without an order. Every key has at most one value; the main statements say what
each operation does to the value of a key.
-/
namespace Muster.Store

/-- A finite map from keys to values. -/
structure Table (κ α : Type) where
  entries : List (κ × α)
  distinct : (entries.map Prod.fst).Nodup
deriving Repr

variable {κ α : Type}

def Table.empty : Table κ α :=
  ⟨[], by simp⟩

instance : Inhabited (Table κ α) := ⟨Table.empty⟩
instance : EmptyCollection (Table κ α) := ⟨Table.empty⟩

def Table.size (table : Table κ α) : Nat :=
  table.entries.length

/-- The values, in no particular order. -/
def Table.values (table : Table κ α) : List α :=
  table.entries.map Prod.snd

theorem distinct_filter (keep : κ × α → Bool) {entries : List (κ × α)}
    (h : (entries.map Prod.fst).Nodup) : ((entries.filter keep).map Prod.fst).Nodup :=
  h.sublist (List.filter_sublist.map Prod.fst)

def Table.filter (table : Table κ α) (keep : κ → α → Bool) : Table κ α :=
  ⟨table.entries.filter fun entry => keep entry.1 entry.2, distinct_filter _ table.distinct⟩

variable [DecidableEq κ]

def Table.get? (table : Table κ α) (key : κ) : Option α :=
  table.entries.lookup key

def Table.contains (table : Table κ α) (key : κ) : Bool :=
  (table.get? key).isSome

def Table.erase (table : Table κ α) (key : κ) : Table κ α :=
  table.filter fun k _ => k ≠ key

theorem lookup_cons_eq (entries : List (κ × α)) (first k : κ) (value : α) :
    ((first, value) :: entries).lookup k = if k = first then some value else entries.lookup k := by
  by_cases h : k = first
  · simp [h]
  · simp [List.lookup_cons, h, beq_eq_false_iff_ne.mpr h]

theorem lookup_filter_ne (entries : List (κ × α)) (key k : κ) :
    (entries.filter fun entry => decide (entry.1 ≠ key)).lookup k =
      if k = key then none else entries.lookup k := by
  induction entries with
  | nil => simp
  | cons head rest ih =>
      obtain ⟨first, value⟩ := head
      by_cases hfirst : first = key
      · subst hfirst
        rw [List.filter_cons_of_neg (by simp), ih, lookup_cons_eq]
        by_cases hk : k = first <;> simp [hk]
      · rw [List.filter_cons_of_pos (by simp [hfirst]), lookup_cons_eq, lookup_cons_eq, ih]
        by_cases hk : k = key
        · simp [hk, Ne.symm hfirst]
        · simp [hk]

@[simp] theorem Table.get?_empty (key : κ) : (Table.empty : Table κ α).get? key = none := rfl

theorem Table.get?_erase (table : Table κ α) (key k : κ) :
    (table.erase key).get? k = if k = key then none else table.get? k :=
  lookup_filter_ne table.entries key k

/-- The table with a value for a key, in place of the one it may have had. -/
def Table.insert (table : Table κ α) (key : κ) (value : α) : Table κ α where
  entries := (key, value) :: (table.erase key).entries
  distinct := by
    simp only [List.map_cons, List.nodup_cons]
    refine ⟨?_, (table.erase key).distinct⟩
    simp [Table.erase, Table.filter]

theorem Table.get?_insert (table : Table κ α) (key k : κ) (value : α) :
    (table.insert key value).get? k = if k = key then some value else table.get? k := by
  have h := table.get?_erase key k
  simp only [Table.get?, Table.insert] at *
  by_cases hk : k = key <;> simp [lookup_cons_eq, hk, h]

theorem Table.get?_eq_some_iff (table : Table κ α) (key : κ) (value : α) :
    table.get? key = some value ↔ (key, value) ∈ table.entries := by
  have distinct := table.distinct
  simp only [Table.get?]
  generalize table.entries = entries at distinct
  induction entries with
  | nil => simp
  | cons head rest ih =>
      obtain ⟨first, found⟩ := head
      simp only [List.map_cons, List.nodup_cons] at distinct
      have ih := ih distinct.2
      by_cases hk : key = first
      · subst hk
        have absent : (key, value) ∉ rest := fun h =>
          distinct.1 (List.mem_map.mpr ⟨_, h, rfl⟩)
        simp [absent, eq_comm]
      · simp [lookup_cons_eq, hk, ih]

theorem Table.get?_filter (table : Table κ α) (keep : κ → α → Bool) (key : κ) :
    (table.filter keep).get? key = (table.get? key).filter (keep key) := by
  have kept := (table.filter keep).get?_eq_some_iff key
  have had := table.get?_eq_some_iff key
  ext value
  rw [kept value, Option.filter_eq_some_iff, had value]
  simp [Table.filter]

end Muster.Store
