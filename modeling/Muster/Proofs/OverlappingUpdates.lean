import Mathlib.Data.Fin.VecNotation
import Mathlib.Data.Fintype.Basic
import Mathlib.Data.List.Induction
import Mathlib.Logic.Function.Basic
import Mathlib.Tactic.FinCases
import Muster.Proofs.AgentIndex
/-!
Creations and updates over one store of agents, all under way at once. A creation holds the slots of
its fingerprint and its key from its first look at them, so nobody sees it half done. An update lets
others in between its three steps. As long as no agent has two updates under way together, keys stay
unique and indexed; two updates of one agent can undo each other's work on the index.
-/
namespace Muster.Store

/-- A call that writes to the store. -/
inductive AgentWrite
  | create (record : AgentRecord)
  | update (record : AgentRecord)

def AgentWrite.advance (store : AgentStore) : AgentWrite → UpdateStage → UpdateStage × AgentStore
  | .create record, .start => ((.over (store.create record).1), (store.create record).2)
  | .create _, stage => (stage, store)
  | .update record, stage => AgentStore.updateStep record stage store

def AgentWrite.updated? : AgentWrite → Option String
  | .create _ => none
  | .update record => some record.agentId

def AgentWrite.created? : AgentWrite → Option String
  | .create record => some record.agentId
  | .update _ => none

/-- An update is under way once it has read the former key, until it has released it. -/
def UpdateStage.underWay : UpdateStage → Prop
  | .keyKnown _ | .written _ => True
  | .start | .over _ => False

/-- Writes under way: the store that they share, and the stage of each. -/
structure Writing (ι : Type) where
  store : AgentStore
  stage : ι → UpdateStage

variable {ι : Type}

/-- No agent has two updates under way. -/
def Writing.Apart (writes : ι → AgentWrite) (writing : Writing ι) : Prop :=
  ∀ i j agentId, (writes i).updated? = some agentId → (writes j).updated? = some agentId →
    (writing.stage i).underWay → (writing.stage j).underWay → i = j

def Writing.Finished (writing : Writing ι) : Prop :=
  ∀ i, ∃ result, writing.stage i = .over result

/-- What keys owe to the records of a store at rest. -/
structure AgentStore.KeysSettled (store : AgentStore) : Prop where
  unique : ∀ first second record other, store.get? first = some record →
    store.get? second = some other → record.publicKey = other.publicKey → record.publicKey ≠ "" →
      first = second
  indexed : ∀ id record, store.get? id = some record → record.publicKey ≠ "" →
    store.byPublicKey.get? record.publicKey = some id
  current : ∀ key id, store.byPublicKey.get? key = some id →
    ∃ record, store.get? id = some record ∧ record.publicKey = key

/-- One store is another with a record put in, and with the slot of its key, which nobody else had. -/
structure AgentStore.Put (store : AgentStore) (record : AgentRecord) (next : AgentStore) :
    Prop where
  get : ∀ id, next.get? id = if id = record.agentId then some record else store.get? id
  key : ∀ key, next.byPublicKey.get? key =
    if key = record.publicKey ∧ key ≠ "" then some record.agentId
    else store.byPublicKey.get? key
  own : ∀ holder, record.publicKey ≠ "" →
    store.byPublicKey.get? record.publicKey = some holder → holder = record.agentId

theorem AgentStore.Added.put {store next : AgentStore} {record : AgentRecord}
    (hadded : store.Added record next)
    (hfree : record.publicKey ≠ "" → store.byPublicKey.get? record.publicKey = none) :
    store.Put record next := by
  refine ⟨hadded.get, hadded.key, ?_⟩
  intro holder hempty hheld
  rw [hfree hempty] at hheld
  cases hheld

/-- A key that is empty, or its agent's own in the index already, leaves the index as it is. -/
theorem AgentStore.put_own (store : AgentStore) {record : AgentRecord}
    (hindex : record.publicKey ≠ "" →
      store.byPublicKey.get? record.publicKey = some record.agentId) :
    store.Put record (store.putRecord record) := by
  refine ⟨store.get?_putRecord record, ?_, ?_⟩
  · intro key
    change store.byPublicKey.get? key = _
    split
    · next hnew =>
        obtain ⟨rfl, hempty⟩ := hnew
        exact hindex hempty
    · rfl
  · intro holder hempty hheld
    exact Option.some.inj (hheld.symm.trans (hindex hempty))

variable [DecidableEq ι]

/-- One of the writes makes one step. -/
def Writing.step (writes : ι → AgentWrite) (writing : Writing ι) (i : ι) : Writing ι :=
  let (stage, store) := (writes i).advance writing.store (writing.stage i)
  ⟨store, Function.update writing.stage i stage⟩

/-- The writes behind some steps, from a store on which none of them has begun. -/
def Writing.run (store : AgentStore) (writes : ι → AgentWrite) (schedule : List ι) : Writing ι :=
  schedule.foldl (Writing.step writes) ⟨store, fun _ => .start⟩

/-- At no moment has an agent two updates under way. -/
def Writing.NeverOverlap (store : AgentStore) (writes : ι → AgentWrite) (schedule : List ι) : Prop :=
  ∀ moment, moment <+: schedule → (Writing.run store writes moment).Apart writes

/-- The agents that are created are new, and each is created once. -/
structure FreshAgents (store : AgentStore) (writes : ι → AgentWrite) : Prop where
  absent : ∀ i agentId, (writes i).created? = some agentId → store.get? agentId = none
  distinct : ∀ i j agentId, (writes i).created? = some agentId →
    (writes j).created? = some agentId → i = j

/-- What holds at every moment. A key in the index is its agent's current one, or the former one that
an update under way is about to release. -/
structure Writing.Orderly (writes : ι → AgentWrite) (writing : Writing ι) : Prop where
  indexed : ∀ id record, writing.store.get? id = some record → record.publicKey ≠ "" →
    writing.store.byPublicKey.get? record.publicKey = some id
  owned : ∀ key id, writing.store.byPublicKey.get? key = some id → key ≠ "" ∧
    ((∃ record, writing.store.get? id = some record ∧ record.publicKey = key) ∨
      ∃ i, (writes i).updated? = some id ∧ writing.stage i = .written key)
  known : ∀ i record previous, writes i = .update record →
    writing.stage i = .keyKnown previous →
      ∃ found, writing.store.get? record.agentId = some found ∧ found.publicKey = previous
  written : ∀ i record previous, writes i = .update record →
    writing.stage i = .written previous → writing.store.get? record.agentId = some record
  unborn : ∀ i agentId, (writes i).created? = some agentId → writing.stage i = .start →
    writing.store.get? agentId = none

theorem Writing.orderly_start {store : AgentStore} {writes : ι → AgentWrite}
    (hstore : store.KeysIndexed) (hfresh : FreshAgents store writes) :
    (Writing.run store writes []).Orderly writes := by
  refine ⟨?_, ?_, ?_, ?_, ?_⟩
  · intro id record hrecord hkey
    exact (hstore _ _).2 ⟨record, hrecord, rfl, hkey⟩
  · intro key id hindex
    obtain ⟨record, hrecord, hkey, hempty⟩ := (hstore _ _).1 hindex
    exact ⟨hempty, Or.inl ⟨record, hrecord, hkey⟩⟩
  · intro i record previous _ hstage
    cases hstage
  · intro i record previous _ hstage
    cases hstage
  · intro i agentId hcreated _
    exact hfresh.absent i agentId hcreated

section Step

variable {writes : ι → AgentWrite} {writing : Writing ι} {i : ι} {record : AgentRecord}
  {next : AgentStore} {previous : String}

/-- Behind a step, a stage that is not the one that the step led to is the stage of another write. -/
theorem Writing.stage_of_ne {stage after : UpdateStage} {j : ι}
    (hstage : Function.update writing.stage i after j = stage) (hdifferent : after ≠ stage) :
    j ≠ i ∧ writing.stage j = stage := by
  have hother : j ≠ i := by
    rintro rfl
    exact hdifferent ((Function.update_self _ _ _).symm.trans hstage)
  exact ⟨hother, (Function.update_of_ne hother _ _).symm.trans hstage⟩

/-- A stage on which the write that steps is not is left to the write that is on it. -/
theorem Writing.stage_kept {stage after : UpdateStage} {j : ι} (hmover : writing.stage i ≠ stage)
    (hstage : writing.stage j = stage) : Function.update writing.stage i after j = stage := by
  have hother : j ≠ i := by
    rintro rfl
    exact hmover hstage
  exact (Function.update_of_ne hother _ _).trans hstage

/-- A step that only looks at the store, or is refused by it. -/
theorem Writing.Orderly.stay (horderly : writing.Orderly writes) {stage : UpdateStage}
    (hbefore : ∀ key, writing.stage i ≠ .written key) (hafter : ∀ key, stage ≠ .written key)
    (hbegun : stage ≠ .start)
    (hknown : ∀ record previous, writes i = .update record → stage = .keyKnown previous →
      ∃ found, writing.store.get? record.agentId = some found ∧ found.publicKey = previous) :
    Writing.Orderly writes ⟨writing.store, Function.update writing.stage i stage⟩ := by
  refine ⟨horderly.indexed, ?owned, ?known, ?written, ?unborn⟩
  case owned =>
    intro key id hindex
    obtain ⟨hempty, hcurrent | ⟨j, hupdated, hstage⟩⟩ := horderly.owned key id hindex
    · exact ⟨hempty, Or.inl hcurrent⟩
    · exact ⟨hempty, Or.inr ⟨j, hupdated, stage_kept (hbefore key) hstage⟩⟩
  case known =>
    intro j found previous hwrite hstage
    by_cases hmover : j = i
    · subst hmover
      exact hknown found previous hwrite ((Function.update_self _ _ _).symm.trans hstage)
    · exact horderly.known j found previous hwrite
        ((Function.update_of_ne hmover _ _).symm.trans hstage)
  case written =>
    intro j found previous hwrite hstage
    exact horderly.written j found previous hwrite (stage_of_ne hstage (hafter previous)).2
  case unborn =>
    intro j agentId hcreated hstage
    exact horderly.unborn j agentId hcreated (stage_of_ne hstage hbegun).2

omit [DecidableEq ι] in
/-- Records that are put in keep every key indexed. -/
theorem Writing.Orderly.indexed_put (horderly : writing.Orderly writes)
    (hput : writing.store.Put record next) :
    ∀ id found, next.get? id = some found → found.publicKey ≠ "" →
      next.byPublicKey.get? found.publicKey = some id := by
  intro id found hfound hempty
  rw [hput.get] at hfound
  rw [hput.key]
  by_cases hid : id = record.agentId
  · rw [if_pos hid] at hfound
    cases hfound
    rw [if_pos ⟨rfl, hempty⟩, hid]
  · rw [if_neg hid] at hfound
    have hindex := horderly.indexed id found hfound hempty
    rw [if_neg, hindex]
    rintro ⟨hsame, -⟩
    rw [hsame] at hindex hempty
    exact hid (hput.own id hempty hindex)

omit [DecidableEq ι] in
/-- A slot behind a put leads to a record with its key, or is a former one: of the agent whose record
has been put in, or of an update under way. -/
theorem Writing.Orderly.owned_put (horderly : writing.Orderly writes)
    (hput : writing.store.Put record next) {key id : String}
    (hindex : next.byPublicKey.get? key = some id) :
    key ≠ "" ∧ ((∃ found, next.get? id = some found ∧ found.publicKey = key) ∨
      (∃ found, writing.store.get? record.agentId = some found ∧ found.publicKey = key ∧
        id = record.agentId) ∨
      ∃ j, (writes j).updated? = some id ∧ writing.stage j = .written key) := by
  rw [hput.key] at hindex
  split at hindex
  · next hnew =>
      cases hindex
      exact ⟨hnew.2, Or.inl ⟨record, (hput.get _).trans (if_pos rfl), hnew.1.symm⟩⟩
  · obtain ⟨hempty, ⟨found, hfound, hheld⟩ | hwritten⟩ := horderly.owned key id hindex
    · refine ⟨hempty, ?_⟩
      by_cases hid : id = record.agentId
      · exact Or.inr (Or.inl ⟨found, hid ▸ hfound, hheld, hid⟩)
      · exact Or.inl ⟨found, (hput.get _).trans ((if_neg hid).trans hfound), hheld⟩
    · exact ⟨hempty, Or.inr (Or.inr hwritten)⟩

theorem Writing.Orderly.created (horderly : writing.Orderly writes)
    (hdistinct : ∀ j, (writes j).created? = some record.agentId → j = i)
    (hwrite : writes i = .create record) (hstage : writing.stage i = .start)
    (hput : writing.store.Put record next) (result : Except StoreError Unit) :
    Writing.Orderly writes ⟨next, Function.update writing.stage i (.over result)⟩ := by
  have hnone := horderly.unborn i record.agentId (by rw [hwrite, AgentWrite.created?]) hstage
  have hkept : ∀ id found, writing.store.get? id = some found → next.get? id = some found := by
    intro id found hfound
    have hother : id ≠ record.agentId := by
      rintro rfl
      rw [hnone] at hfound
      cases hfound
    rw [hput.get, if_neg hother, hfound]
  refine ⟨horderly.indexed_put hput, ?owned, ?known, ?written, ?unborn⟩
  case owned =>
    intro key id hindex
    obtain ⟨hempty, hcurrent | ⟨found, hfound, -⟩ | ⟨j, hupdated, hwritten⟩⟩ :=
      horderly.owned_put hput hindex
    · exact ⟨hempty, Or.inl hcurrent⟩
    · rw [hnone] at hfound
      cases hfound
    · exact ⟨hempty, Or.inr ⟨j, hupdated, stage_kept (by simp [hstage]) hwritten⟩⟩
  case known =>
    intro j other previous hupdate hknown
    obtain ⟨found, hfound, hkey⟩ :=
      horderly.known j other previous hupdate (stage_of_ne hknown (by simp)).2
    exact ⟨found, hkept _ _ hfound, hkey⟩
  case written =>
    intro j other previous hupdate hwritten
    exact hkept _ _ (horderly.written j other previous hupdate (stage_of_ne hwritten (by simp)).2)
  case unborn =>
    intro j agentId hcreated hunborn
    obtain ⟨hother, hbefore⟩ := stage_of_ne hunborn (by simp)
    have hid : agentId ≠ record.agentId := by
      rintro rfl
      exact hother (hdistinct j hcreated)
    exact (hput.get _).trans ((if_neg hid).trans (horderly.unborn j agentId hcreated hbefore))

/-- The second step of an update, while no other update of the agent is under way. -/
theorem Writing.Orderly.wrote (horderly : writing.Orderly writes)
    (halone : ∀ j, (writes j).updated? = some record.agentId → (writing.stage j).underWay → j = i)
    (hwrite : writes i = .update record) (hstage : writing.stage i = .keyKnown previous)
    (hput : writing.store.Put record next) :
    Writing.Orderly writes ⟨next, Function.update writing.stage i (.written previous)⟩ := by
  obtain ⟨before, hbefore, hprevious⟩ := horderly.known i record previous hwrite hstage
  have hothers : ∀ j other, j ≠ i → writes j = .update other → (writing.stage j).underWay →
      next.get? other.agentId = writing.store.get? other.agentId := by
    intro j other hother hupdate hunderWay
    rw [hput.get, if_neg]
    intro hsame
    have hupdated : (writes j).updated? = some record.agentId := by
      rw [hupdate, AgentWrite.updated?, hsame]
    exact hother (halone j hupdated hunderWay)
  refine ⟨horderly.indexed_put hput, ?owned, ?known, ?written, ?unborn⟩
  case owned =>
    intro key id hindex
    obtain ⟨hempty, hcurrent | ⟨found, hfound, hheld, rfl⟩ | ⟨j, hupdated, hwritten⟩⟩ :=
      horderly.owned_put hput hindex
    · exact ⟨hempty, Or.inl hcurrent⟩
    · -- the key that the agent has had so far, which is still to be released
      rw [hbefore] at hfound
      cases hfound
      have hformer : previous = key := hprevious.symm.trans hheld
      refine ⟨hempty, Or.inr ⟨i, by rw [hwrite, AgentWrite.updated?], ?_⟩⟩
      rw [← hformer]
      exact Function.update_self _ _ _
    · exact ⟨hempty, Or.inr ⟨j, hupdated, stage_kept (by simp [hstage]) hwritten⟩⟩
  case known =>
    intro j other key hupdate hknown
    obtain ⟨hother, hstage⟩ := stage_of_ne hknown (by simp)
    obtain ⟨found, hfound, hheld⟩ := horderly.known j other key hupdate hstage
    have hsame := hothers j other hother hupdate (by rw [hstage]; trivial)
    exact ⟨found, hsame.trans hfound, hheld⟩
  case written =>
    intro j other key hupdate hwritten
    by_cases hmover : j = i
    · subst hmover
      rw [hwrite] at hupdate
      cases hupdate
      exact (hput.get _).trans (if_pos rfl)
    · have hstage := (Function.update_of_ne hmover _ _).symm.trans hwritten
      have hsame := hothers j other hmover hupdate (by rw [hstage]; trivial)
      exact hsame.trans (horderly.written j other key hupdate hstage)
  case unborn =>
    intro j agentId hcreated hunborn
    have hnone := horderly.unborn j agentId hcreated (stage_of_ne hunborn (by simp)).2
    have hid : agentId ≠ record.agentId := by
      rintro rfl
      rw [hbefore] at hnone
      cases hnone
    exact (hput.get _).trans ((if_neg hid).trans hnone)

theorem Writing.Orderly.released (horderly : writing.Orderly writes)
    (hwrite : writes i = .update record) (hstage : writing.stage i = .written previous)
    (result : Except StoreError Unit) :
    Writing.Orderly writes ⟨writing.store.releaseKey record previous,
      Function.update writing.stage i (.over result)⟩ := by
  have hrecord := horderly.written i record previous hwrite hstage
  refine ⟨?indexed, ?owned, ?known, ?written, ?unborn⟩
  case indexed =>
    intro id found hfound hempty
    rw [AgentStore.get?_releaseKey] at hfound
    have hindex := horderly.indexed id found hfound hempty
    change (writing.store.releaseKey record previous).byPublicKey.get? _ = _
    rw [AgentStore.key_releaseKey, if_neg, hindex]
    rintro ⟨hsame, hchanged, -, howner⟩
    -- the slot that is released belongs to the agent, whose record has another key by now
    rw [hsame, howner] at hindex
    cases hindex
    rw [hrecord] at hfound
    cases hfound
    exact hchanged hsame.symm
  case owned =>
    intro key id hindex
    change (writing.store.releaseKey record previous).byPublicKey.get? _ = _ at hindex
    rw [AgentStore.key_releaseKey] at hindex
    split at hindex
    · cases hindex
    · next hkept =>
        obtain ⟨hempty, ⟨found, hfound, hheld⟩ | ⟨j, hupdated, hwritten⟩⟩ :=
          horderly.owned key id hindex
        · exact ⟨hempty, Or.inl ⟨found, (AgentStore.get?_releaseKey _ _ _ _).trans hfound, hheld⟩⟩
        · refine ⟨hempty, ?_⟩
          by_cases hmover : j = i
          · subst hmover
            rw [hstage] at hwritten
            cases hwritten
            rw [hwrite, AgentWrite.updated?] at hupdated
            cases hupdated
            have hsame : record.publicKey = previous := by
              by_contra hchanged
              exact hkept ⟨rfl, Ne.symm hchanged, hempty, hindex⟩
            exact Or.inl ⟨record, (AgentStore.get?_releaseKey _ _ _ _).trans hrecord, hsame⟩
          · exact Or.inr ⟨j, hupdated, (Function.update_of_ne hmover _ _).trans hwritten⟩
  case known =>
    intro j other key hupdate hknown
    obtain ⟨found, hfound, hheld⟩ :=
      horderly.known j other key hupdate (stage_of_ne hknown (by simp)).2
    exact ⟨found, (AgentStore.get?_releaseKey _ _ _ _).trans hfound, hheld⟩
  case written =>
    intro j other key hupdate hwritten
    exact (AgentStore.get?_releaseKey _ _ _ _).trans
      (horderly.written j other key hupdate (stage_of_ne hwritten (by simp)).2)
  case unborn =>
    intro j agentId hcreated hunborn
    exact (AgentStore.get?_releaseKey _ _ _ _).trans
      (horderly.unborn j agentId hcreated (stage_of_ne hunborn (by simp)).2)

theorem Writing.step_of_idle (hidle : (writes i).advance writing.store (writing.stage i) =
    (writing.stage i, writing.store)) : writing.step writes i = writing := by
  rw [Writing.step, hidle]
  simp only [Function.update_eq_self]

theorem Writing.step_of_advance (stage : UpdateStage) (next : AgentStore) (hadvance :
    (writes i).advance writing.store (writing.stage i) = (stage, next)) :
    writing.step writes i = ⟨next, Function.update writing.stage i stage⟩ := by
  rw [Writing.step, hadvance]

omit [DecidableEq ι] in
/-- The write of an update: it is refused for the key, or puts the record in place and takes the slot
of its key. -/
theorem Writing.Orderly.writeRecord_cases (horderly : writing.Orderly writes)
    (hwrite : writes i = .update record) (hstage : writing.stage i = .keyKnown previous) :
    (∃ holder, writing.store.writeRecord record previous =
      (.over (.error (.keyInUse holder)), writing.store)) ∨
    ∃ next, writing.store.writeRecord record previous = (.written previous, next) ∧
      writing.store.Put record next := by
  obtain ⟨before, hbefore, rfl⟩ := horderly.known i record previous hwrite hstage
  by_cases hkept : record.publicKey = before.publicKey ∨ record.publicKey = ""
  · refine Or.inr ⟨_, AgentStore.writeRecord_of_kept hbefore hkept, writing.store.put_own ?_⟩
    intro hempty
    have hsame := hkept.resolve_right hempty
    rw [hsame]
    exact horderly.indexed record.agentId before hbefore (hsame ▸ hempty)
  · have hchanged : record.publicKey ≠ before.publicKey := fun hsame => hkept (Or.inl hsame)
    have hempty : record.publicKey ≠ "" := fun hsame => hkept (Or.inr hsame)
    cases hheld : writing.store.byPublicKey.get? record.publicKey with
    | none =>
        refine Or.inr ⟨_, AgentStore.writeRecord_of_free hbefore hchanged hempty hheld,
          writing.store.get?_putRecord record, writing.store.key_takeKey_putRecord hempty, ?_⟩
        intro holder _ hnone
        rw [hheld] at hnone
        cases hnone
    | some holder =>
        by_cases hown : holder = record.agentId
        · subst hown
          refine Or.inr ⟨writing.store.putRecord record, ?_, writing.store.put_own fun _ => hheld⟩
          simp [AgentStore.writeRecord, hchanged, hempty, hheld,
            AgentStore.replace_of_some hbefore]
        · exact Or.inl ⟨holder, AgentStore.writeRecord_of_held hchanged hempty hheld hown⟩

/-- A step of a creation: it is refused, or puts its record in, or is over already. -/
theorem Writing.Orderly.step_create (horderly : writing.Orderly writes)
    (hdistinct : ∀ j, (writes j).created? = some record.agentId → j = i)
    (hwrite : writes i = .create record) : (writing.step writes i).Orderly writes := by
  by_cases hstage : writing.stage i = .start
  · rcases writing.store.create_cases record with ⟨holder, -, hcreate⟩ |
      ⟨holder, -, -, -, hcreate⟩ | ⟨-, hfree, next, hcreate, hadded⟩
    · rw [step_of_advance (.over (.error .alreadyExists)) writing.store]
      · exact horderly.stay (by simp [hstage]) (by simp) (by simp) (by simp)
      · rw [hwrite, hstage, AgentWrite.advance, hcreate]
    · rw [step_of_advance (.over (.error (.keyInUse holder))) writing.store]
      · exact horderly.stay (by simp [hstage]) (by simp) (by simp) (by simp)
      · rw [hwrite, hstage, AgentWrite.advance, hcreate]
    · rw [step_of_advance (.over (.ok ())) next]
      · exact horderly.created hdistinct hwrite hstage (hadded.put hfree) _
      · rw [hwrite, hstage, AgentWrite.advance, hcreate]
  · rw [step_of_idle]
    · exact horderly
    · rw [hwrite]
      cases hcase : writing.stage i with
      | start => exact absurd hcase hstage
      | keyKnown _ | written _ | «over» _ => rfl

/-- A step of an update whose agent has no other one under way. -/
theorem Writing.Orderly.step_update (horderly : writing.Orderly writes)
    (halone : (writing.stage i).underWay → ∀ j, (writes j).updated? = some record.agentId →
      (writing.stage j).underWay → j = i)
    (hwrite : writes i = .update record) : (writing.step writes i).Orderly writes := by
  cases hstage : writing.stage i with
  | start =>
      cases hbefore : writing.store.get? record.agentId with
      | none =>
          rw [step_of_advance (.over (.error .notFound)) writing.store]
          · exact horderly.stay (by simp [hstage]) (by simp) (by simp) (by simp)
          · rw [hwrite, hstage, AgentWrite.advance, AgentStore.updateStep,
              AgentStore.readPreviousKey, hbefore]
      | some before =>
          rw [step_of_advance (.keyKnown before.publicKey) writing.store]
          · refine horderly.stay (by simp [hstage]) (by simp) (by simp) ?_
            intro other previous hother hknown
            rw [hwrite] at hother
            cases hother
            cases hknown
            exact ⟨before, hbefore, rfl⟩
          · rw [hwrite, hstage, AgentWrite.advance, AgentStore.updateStep,
              AgentStore.readPreviousKey, hbefore]
  | keyKnown previous =>
      rcases horderly.writeRecord_cases hwrite hstage with ⟨holder, hrefused⟩ |
        ⟨next, hwritten, hput⟩
      · rw [step_of_advance (.over (.error (.keyInUse holder))) writing.store]
        · exact horderly.stay (by simp [hstage]) (by simp) (by simp) (by simp)
        · rw [hwrite, hstage, AgentWrite.advance, AgentStore.updateStep, hrefused]
      · rw [step_of_advance (.written previous) next]
        · exact horderly.wrote (halone (by rw [hstage]; trivial)) hwrite hstage hput
        · rw [hwrite, hstage, AgentWrite.advance, AgentStore.updateStep, hwritten]
  | written previous =>
      rw [step_of_advance (.over (.ok ())) (writing.store.releaseKey record previous)]
      · exact horderly.released hwrite hstage _
      · rw [hwrite, hstage, AgentWrite.advance, AgentStore.updateStep]
  | «over» result =>
      rw [step_of_idle]
      · exact horderly
      · rw [hwrite, hstage, AgentWrite.advance, AgentStore.updateStep]

/-- Every step keeps order, as long as no agent has two updates under way. -/
theorem Writing.Orderly.step (horderly : writing.Orderly writes)
    (hdistinct : ∀ i j agentId, (writes i).created? = some agentId →
      (writes j).created? = some agentId → i = j)
    (hapart : writing.Apart writes) (i : ι) : (writing.step writes i).Orderly writes := by
  cases hwrite : writes i with
  | create record =>
      refine horderly.step_create ?_ hwrite
      intro j hcreated
      exact hdistinct j i record.agentId hcreated (by rw [hwrite, AgentWrite.created?])
  | update record =>
      refine horderly.step_update ?_ hwrite
      intro hmoving j hupdated hunderWay
      refine hapart j i record.agentId hupdated ?_ hunderWay hmoving
      rw [hwrite, AgentWrite.updated?]

end Step

theorem Writing.run_append (store : AgentStore) (writes : ι → AgentWrite) (schedule : List ι)
    (i : ι) : Writing.run store writes (schedule ++ [i]) =
      (Writing.run store writes schedule).step writes i := by
  simp only [Writing.run, List.foldl_append, List.foldl_cons, List.foldl_nil]

/-- Every moment of a run in which the updates of an agent do not overlap is orderly. -/
theorem Writing.run_orderly {store : AgentStore} {writes : ι → AgentWrite} {schedule : List ι}
    (hstore : store.KeysIndexed) (hfresh : FreshAgents store writes)
    (hapart : Writing.NeverOverlap store writes schedule) :
    (Writing.run store writes schedule).Orderly writes := by
  induction schedule using List.reverseRecOn with
  | nil => exact Writing.orderly_start hstore hfresh
  | append_singleton schedule i ih =>
      have hbefore : Writing.NeverOverlap store writes schedule := fun moment hmoment =>
        hapart moment (hmoment.trans (List.prefix_append _ _))
      rw [Writing.run_append]
      exact (ih hbefore).step hfresh.distinct (hapart schedule (List.prefix_append _ _)) i

/-- Creations and updates of different agents may interleave as they like: at their end, every key
that is not empty belongs to one agent, its slot says so, and no slot is left over. -/
theorem interleaved_writes_keep_keys {store : AgentStore} {writes : ι → AgentWrite}
    {schedule : List ι} (hstore : store.KeysIndexed) (hfresh : FreshAgents store writes)
    (hapart : Writing.NeverOverlap store writes schedule)
    (hfinished : (Writing.run store writes schedule).Finished) :
    (Writing.run store writes schedule).store.KeysSettled := by
  have horderly := Writing.run_orderly hstore hfresh hapart
  refine ⟨?unique, horderly.indexed, ?current⟩
  case unique =>
    intro first second record other hrecord hother hsame hempty
    have hfirst := horderly.indexed first record hrecord hempty
    have hsecond := horderly.indexed second other hother (hsame ▸ hempty)
    rw [← hsame] at hsecond
    exact Option.some.inj (hfirst.symm.trans hsecond)
  case current =>
    intro key id hindex
    obtain ⟨-, hcurrent | ⟨i, -, hwritten⟩⟩ := horderly.owned key id hindex
    · exact hcurrent
    · obtain ⟨result, hover⟩ := hfinished i
      rw [hover] at hwritten
      cases hwritten

/-- Updates of different agents never overlap in this sense, whatever the schedule. -/
theorem Writing.neverOverlap_of_separate {writes : ι → AgentWrite}
    (hseparate : ∀ i j agentId, (writes i).updated? = some agentId →
      (writes j).updated? = some agentId → i = j) (store : AgentStore) (schedule : List ι) :
    Writing.NeverOverlap store writes schedule := by
  intro moment _ i j agentId hi hj _ _
  exact hseparate i j agentId hi hj

def recordOf (agentId fingerprint publicKey : String) : AgentRecord where
  agentId := agentId
  fingerprint := fingerprint
  publicKey := publicKey
  publicKeyType := "rsa"
  status := "active"
  tokenId := "tok"
  tags := []
  registeredAt := Time.Instant.epoch
  createdAt := Time.Instant.epoch
  updatedAt := Time.Instant.epoch

/-- A creation that takes the key which an update under way is about to write. -/
theorem interleaved_writes_keep_keys_forestalled :
    let writes : Fin 3 → AgentWrite := ![.create (recordOf "a" "host-a" "k1"),
      .update (recordOf "a" "host-a" "k2"), .create (recordOf "b" "host-b" "k2")]
    (Writing.run AgentStore.empty writes [0, 1, 2, 1]).store.KeysSettled := by
  intro writes
  have hfresh : FreshAgents AgentStore.empty writes := by
    have hids : ∀ i j : Fin 3, (writes i).created? = (writes j).created? →
        (writes i).created? ≠ none → i = j := by decide
    exact ⟨fun i agentId _ => rfl, fun i j agentId hi hj =>
      hids i j (hi.trans hj.symm) (by simp [hi])⟩
  have hapart : Writing.NeverOverlap AgentStore.empty writes [0, 1, 2, 1] := by
    have hids : ∀ i j : Fin 3, (writes i).updated? = (writes j).updated? →
        (writes i).updated? ≠ none → i = j := by decide
    exact Writing.neverOverlap_of_separate (fun i j agentId hi hj =>
      hids i j (hi.trans hj.symm) (by simp [hi])) _ _
  have hfinished : (Writing.run AgentStore.empty writes [0, 1, 2, 1]).Finished := by
    intro i
    fin_cases i
    · exact ⟨.ok (), rfl⟩
    · exact ⟨.error (.keyInUse "b"), rfl⟩
    · exact ⟨.ok (), rfl⟩
  exact interleaved_writes_keep_keys AgentStore.indexed_empty.keys hfresh hapart hfinished

/-- A rotation to a new key, and a refresh with the old one that has read the former key before the
rotation is over. The refresh writes the old key back without its slot, so that another agent gets
the key as well, and the slot of the new key stays taken. -/
theorem overlapping_updates_share_key :
    let writes : Fin 4 → AgentWrite := ![.create (recordOf "a" "host-a" "k1"),
      .update (recordOf "a" "host-a" "k2"), .update (recordOf "a" "host-a" "k1"),
      .create (recordOf "b" "host-b" "k1")]
    let writing := Writing.run AgentStore.empty writes [0, 1, 2, 1, 1, 2, 2, 3]
    FreshAgents AgentStore.empty writes ∧ writing.Finished ∧
      (writing.store.get? "a").map AgentRecord.publicKey = some "k1" ∧
      (writing.store.get? "b").map AgentRecord.publicKey = some "k1" ∧
      writing.store.byPublicKey.get? "k1" = some "b" ∧
      writing.store.byPublicKey.get? "k2" = some "a" ∧ ¬ writing.store.KeysSettled := by
  intro writes writing
  have hfresh : FreshAgents AgentStore.empty writes := by
    have hids : ∀ i j : Fin 4, (writes i).created? = (writes j).created? →
        (writes i).created? ≠ none → i = j := by decide
    exact ⟨fun i agentId _ => rfl, fun i j agentId hi hj =>
      hids i j (hi.trans hj.symm) (by simp [hi])⟩
  have hfinished : writing.Finished := by
    intro i
    fin_cases i <;> exact ⟨.ok (), rfl⟩
  have hfirst : writing.store.get? "a" = some (recordOf "a" "host-a" "k1") := by decide
  have hsecond : writing.store.get? "b" = some (recordOf "b" "host-b" "k1") := by decide
  refine ⟨hfresh, hfinished, by rw [hfirst]; rfl, by rw [hsecond]; rfl, by decide, by decide, ?_⟩
  intro hsettled
  have hsame := hsettled.unique "a" "b" _ _ hfirst hsecond rfl (by decide)
  exact absurd hsame (by decide)

end Muster.Store
