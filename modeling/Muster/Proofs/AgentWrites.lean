import Muster.Proofs.FailedRequests
import Muster.Proofs.OverlappingUpdates
/-!
Creations and updates of agents, one after the other. Whatever the updates write, the index of keys
is exact behind every write. The index of fingerprints is not kept up by updates: it leads to the
agent that was created with a fingerprint, so that it is exact as long as no record has moved away
from the fingerprint of its creation.
-/
namespace Muster.Store

/-- What becomes of a write that nothing comes between, and the store behind it. -/
def AgentWrite.perform (store : AgentStore) : AgentWrite → Except StoreError Unit × AgentStore
  | .create record => store.create record
  | .update record => store.update record

def AgentStore.after (writes : List AgentWrite) : AgentStore :=
  writes.foldl (fun store write => (write.perform store).2) AgentStore.empty

theorem AgentStore.after_snoc (writes : List AgentWrite) (write : AgentWrite) :
    after (writes ++ [write]) = (write.perform (after writes)).2 := by
  simp only [after, List.foldl_append, List.foldl_cons, List.foldl_nil]

/-- Writes that create only agents which are not there at the time. An update may be of any agent
and to any record. -/
inductive NewAgents : List AgentWrite → Prop
  | start : NewAgents []
  | create {writes : List AgentWrite} {record : AgentRecord} (hwrites : NewAgents writes)
      (habsent : (AgentStore.after writes).get? record.agentId = none) :
      NewAgents (writes ++ [.create record])
  | update {writes : List AgentWrite} (record : AgentRecord) (hwrites : NewAgents writes) :
      NewAgents (writes ++ [.update record])

variable {writes : List AgentWrite}

/-- All that a write can do: it is refused, it adds a record, or it puts one in place of another. -/
inductive AgentWrite.Effect (store : AgentStore) : AgentWrite → AgentStore → Prop
  | refused (write : AgentWrite)
      (hnone : ∀ record, write = .create record → (store.create record).1 ≠ .ok ()) :
      Effect store write store
  | added {record : AgentRecord} {next : AgentStore} (hcreated : (store.create record).1 = .ok ())
      (hslot : store.byFingerprint.get? record.fingerprint = none)
      (hkey : record.publicKey ≠ "" → store.byPublicKey.get? record.publicKey = none)
      (hadded : store.Added record next) : Effect store (.create record) next
  | replaced {previous record : AgentRecord} {next : AgentStore}
      (hprevious : store.get? record.agentId = some previous)
      (hown : ∀ holder, record.publicKey ≠ "" →
        store.byPublicKey.get? record.publicKey = some holder → holder = record.agentId)
      (hreplaced : store.Replaced previous record next) : Effect store (.update record) next

theorem AgentWrite.effect {store : AgentStore} (hstore : store.KeysIndexed) (write : AgentWrite) :
    write.Effect store (write.perform store).2 := by
  cases write with
  | create record =>
      rw [perform]
      have hrefused : ∀ error, store.create record = (.error error, store) →
          Effect store (.create record) (store.create record).2 := by
        intro error hcreate
        rw [hcreate]
        refine .refused _ ?_
        rintro _ ⟨⟩ hcreated
        rw [hcreate] at hcreated
        cases hcreated
      rcases store.create_cases record with ⟨holder, -, hcreate⟩ | ⟨holder, -, -, -, hcreate⟩ |
        ⟨hslot, hkey, next, hcreate, hadded⟩
      · exact hrefused _ hcreate
      · exact hrefused _ hcreate
      · have hcreated := congrArg Prod.fst hcreate
        rw [hcreate]
        exact .added hcreated hslot hkey hadded
  | update record =>
      rw [perform]
      rcases hstore.update_cases record with ⟨-, hupdate⟩ | ⟨holder, -, -, -, -, hupdate⟩ |
        ⟨previous, next, hprevious, hown, hupdate, hreplaced⟩
      · rw [hupdate]
        exact .refused _ (by simp)
      · rw [hupdate]
        exact .refused _ (by simp)
      · rw [hupdate]
        exact .replaced hprevious hown hreplaced

theorem AgentWrite.Effect.keysIndexed {store next : AgentStore} {write : AgentWrite}
    (heffect : write.Effect store next) (hstore : store.KeysIndexed)
    (habsent : ∀ record, write = .create record → store.get? record.agentId = none) :
    next.KeysIndexed := by
  cases heffect with
  | refused => exact hstore
  | added _ _ hkey hadded => exact hadded.keysIndexed hstore (habsent _ rfl) hkey
  | replaced hprevious hown hreplaced => exact hreplaced.keysIndexed hstore hprevious hown

theorem AgentStore.after_keysIndexed (hnew : NewAgents writes) : (after writes).KeysIndexed := by
  induction hnew with
  | start => exact indexed_empty.keys
  | create _ habsent ih =>
      rw [after_snoc]
      exact (AgentWrite.effect ih _).keysIndexed ih (by rintro _ ⟨⟩; exact habsent)
  | update record _ ih =>
      rw [after_snoc]
      exact (AgentWrite.effect ih _).keysIndexed ih (by simp)

/-- The key of a record is another agent's, and this is the refusal that names the holder. -/
def AgentStore.KeyTakenBy (store : AgentStore) (record : AgentRecord) (error : StoreError) : Prop :=
  ∃ holder other, error = .keyInUse holder ∧ holder ≠ record.agentId ∧
    store.get? holder = some other ∧ other.publicKey = record.publicKey ∧ record.publicKey ≠ ""

/-- What a store owes to the keys in its records. -/
structure AgentStore.KeysAnswer (store : AgentStore) : Prop where
  found : ∀ key record, key ≠ "" → (store.findByPublicKey? key = some record ↔
    (∃ id, store.get? id = some record) ∧ record.publicKey = key)
  unique : ∀ first second record other, store.get? first = some record →
    store.get? second = some other → record.publicKey = other.publicKey → record.publicKey ≠ "" →
      first = second
  update : ∀ record error, store.get? record.agentId ≠ none →
    ((store.update record).1 = .error error ↔ store.KeyTakenBy record error)
  create : ∀ record error, store.get? record.agentId = none →
    store.byFingerprint.contains record.fingerprint = false →
      ((store.create record).1 = .error error ↔ store.KeyTakenBy record error)
  refused : ∀ (write : AgentWrite) error, (write.perform store).1 = .error error →
    (write.perform store).2 = store

/-- The slot of a key names its holder. -/
theorem AgentStore.KeysIndexed.keyTakenBy_of_held {store : AgentStore} (hstore : store.KeysIndexed)
    {record : AgentRecord} {holder : String}
    (hheld : store.byPublicKey.get? record.publicKey = some holder)
    (hother : holder ≠ record.agentId) : store.KeyTakenBy record (.keyInUse holder) := by
  obtain ⟨other, hget, hkey, hempty⟩ := (hstore _ _).1 hheld
  exact ⟨holder, other, rfl, hother, hget, hkey, hempty⟩

/-- A key that is free, or the agent's own, is taken by nobody else. -/
theorem AgentStore.KeysIndexed.not_keyTakenBy {store : AgentStore} (hstore : store.KeysIndexed)
    {record : AgentRecord} (hown : ∀ holder, record.publicKey ≠ "" →
      store.byPublicKey.get? record.publicKey = some holder → holder = record.agentId)
    (error : StoreError) : ¬ store.KeyTakenBy record error := by
  rintro ⟨holder, other, -, hother, hget, hkey, hempty⟩
  exact hother (hown holder hempty ((hstore _ _).2 ⟨other, hget, hkey, hempty⟩))

/-- The refusal that names the holder is the only one. -/
theorem AgentStore.KeysIndexed.keyTakenBy_iff {store : AgentStore} (hstore : store.KeysIndexed)
    {record : AgentRecord} {holder : String}
    (hheld : store.byPublicKey.get? record.publicKey = some holder)
    (hother : holder ≠ record.agentId) (error : StoreError) :
    Except.error (.keyInUse holder) = (Except.error error : Except StoreError Unit) ↔
      store.KeyTakenBy record error := by
  constructor
  · rintro ⟨⟩
    exact hstore.keyTakenBy_of_held hheld hother
  · rintro ⟨named, other, rfl, -, hget, hkey, hempty⟩
    have hslot := (hstore _ _).2 ⟨other, hget, hkey, hempty⟩
    rw [hheld] at hslot
    cases hslot
    rfl

theorem AgentStore.KeysIndexed.update_error_iff {store : AgentStore} (hstore : store.KeysIndexed)
    {record : AgentRecord} (hstored : store.get? record.agentId ≠ none) (error : StoreError) :
    (store.update record).1 = .error error ↔ store.KeyTakenBy record error := by
  rcases hstore.update_cases record with ⟨hnone, -⟩ | ⟨holder, hother, -, hheld, -, hupdate⟩ |
    ⟨previous, next, -, hown, hupdate, -⟩
  · exact absurd hnone hstored
  · rw [hupdate]
    exact hstore.keyTakenBy_iff hheld hother error
  · rw [hupdate]
    refine iff_of_false ?_ (hstore.not_keyTakenBy hown error)
    rintro ⟨⟩

theorem AgentStore.KeysIndexed.create_error_iff {store : AgentStore} (hstore : store.KeysIndexed)
    {record : AgentRecord} (habsent : store.get? record.agentId = none)
    (hfree : store.byFingerprint.contains record.fingerprint = false) (error : StoreError) :
    (store.create record).1 = .error error ↔ store.KeyTakenBy record error := by
  rcases store.create_cases record with ⟨holder, hslot, -⟩ | ⟨holder, -, hempty, hheld, hcreate⟩ |
    ⟨-, hkey, next, hcreate, -⟩
  · simp [Table.contains, hslot] at hfree
  · rw [hcreate]
    refine hstore.keyTakenBy_iff hheld ?_ error
    rintro rfl
    obtain ⟨other, hget, -⟩ := (hstore _ _).1 hheld
    rw [habsent] at hget
    cases hget
  · rw [hcreate]
    refine iff_of_false ?_ (hstore.not_keyTakenBy ?_ error)
    · rintro ⟨⟩
    · intro holder hempty hheld
      rw [hkey hempty] at hheld
      cases hheld

theorem AgentWrite.perform_of_error {store : AgentStore} {write : AgentWrite} {error : StoreError}
    (hfailed : (write.perform store).1 = .error error) : (write.perform store).2 = store := by
  rcases write with record | record
  · exact AgentStore.create_of_error (Prod.ext hfailed rfl)
  · exact AgentStore.update_of_error (Prod.ext hfailed rfl)

/-- Keys are looked up, kept apart and refused by what the records hold, behind any creations of new
agents and any updates. -/
theorem keys_answer_by_records (hnew : NewAgents writes) :
    (AgentStore.after writes).KeysAnswer := by
  have hkeys := AgentStore.after_keysIndexed hnew
  refine ⟨?found, ?unique, ?update, ?create, ?refused⟩
  case found =>
    intro key record hempty
    rw [hkeys.find_iff]
    simp only [ne_eq, hempty, not_false_eq_true, and_true]
  case unique =>
    intro first second record other hrecord hother hsame hempty
    exact hkeys.unique hrecord hother hsame hempty
  case update =>
    intro record error hstored
    exact hkeys.update_error_iff hstored error
  case create =>
    intro record error habsent hfree
    exact hkeys.create_error_iff habsent hfree error
  case refused =>
    intro write error hfailed
    exact AgentWrite.perform_of_error hfailed

/-- An agent gives up its key for none, another one takes it over under a new fingerprint, and then
nobody gets it any more. -/
theorem keys_answer_by_records_of_handover :
    let writes : List AgentWrite := [.create (recordOf "a" "host-a" "k1"),
      .create (recordOf "b" "host-b" ""), .update (recordOf "a" "host-a" ""),
      .update (recordOf "b" "host-c" "k1"), .update (recordOf "a" "host-a" "k1"),
      .update (recordOf "c" "host-d" "k2")]
    NewAgents writes ∧ (AgentStore.after writes).KeysAnswer ∧
      (AgentStore.after writes).findByPublicKey? "k1" = some (recordOf "b" "host-c" "k1") ∧
      ((AgentStore.after writes).update (recordOf "a" "host-a" "k1")).1 =
        .error (.keyInUse "b") := by
  intro writes
  have hcreated : NewAgents [.create (recordOf "a" "host-a" "k1"),
      .create (recordOf "b" "host-b" "")] :=
    .create (.create .start rfl) rfl
  have hnew : NewAgents writes := .update _ (.update _ (.update _ (.update _ hcreated)))
  exact ⟨hnew, keys_answer_by_records hnew, by decide, by decide⟩

/-- An agent was created with a fingerprint by one of the writes. -/
def CreatedWith (writes : List AgentWrite) (agentId fingerprint : String) : Prop :=
  ∃ before record, before ++ [.create record] <+: writes ∧
    ((AgentStore.after before).create record).1 = .ok () ∧ record.agentId = agentId ∧
      record.fingerprint = fingerprint

theorem createdWith_snoc_iff (writes : List AgentWrite) (write : AgentWrite)
    (agentId fingerprint : String) :
    CreatedWith (writes ++ [write]) agentId fingerprint ↔
      CreatedWith writes agentId fingerprint ∨
      ∃ record, write = .create record ∧ ((AgentStore.after writes).create record).1 = .ok () ∧
        record.agentId = agentId ∧ record.fingerprint = fingerprint := by
  constructor
  · rintro ⟨before, record, hmoment, hcreated⟩
    rcases List.prefix_concat_iff.1 hmoment with hlast | hearlier
    · obtain ⟨rfl, hwrite⟩ := List.append_inj' hlast rfl
      exact Or.inr ⟨record, (List.singleton_inj.1 hwrite).symm, hcreated⟩
    · exact Or.inl ⟨before, record, hearlier, hcreated⟩
  · rintro (⟨before, record, hmoment, hcreated⟩ | ⟨record, rfl, hcreated⟩)
    · exact ⟨before, record, hmoment.trans (List.prefix_append _ _), hcreated⟩
    · exact ⟨writes, record, List.prefix_refl _, hcreated⟩

theorem createdWith_snoc_of_not {write : AgentWrite}
    (hnone : ∀ record, write = .create record →
      ((AgentStore.after writes).create record).1 ≠ .ok ()) (agentId fingerprint : String) :
    CreatedWith (writes ++ [write]) agentId fingerprint ↔
      CreatedWith writes agentId fingerprint := by
  rw [createdWith_snoc_iff]
  refine or_iff_left ?_
  rintro ⟨record, hwrite, hcreated, -⟩
  exact hnone record hwrite hcreated

theorem createdWith_snoc_create {record : AgentRecord}
    (hcreated : ((AgentStore.after writes).create record).1 = .ok ())
    (agentId fingerprint : String) :
    CreatedWith (writes ++ [.create record]) agentId fingerprint ↔
      CreatedWith writes agentId fingerprint ∨
        (record.agentId = agentId ∧ record.fingerprint = fingerprint) := by
  rw [createdWith_snoc_iff]
  refine or_congr_right ⟨?_, ?_⟩
  · rintro ⟨created, hwrite, -, hrecord⟩
    cases hwrite
    exact hrecord
  · intro hrecord
    exact ⟨record, rfl, hcreated, hrecord⟩

/-- The index of fingerprints keeps with which fingerprint each agent was created. -/
structure AgentStore.RecallsCreation (writes : List AgentWrite) (store : AgentStore) : Prop where
  index : ∀ fingerprint id, store.byFingerprint.get? fingerprint = some id ↔
    CreatedWith writes id fingerprint
  stored : ∀ id, store.get? id ≠ none ↔ ∃ fingerprint, CreatedWith writes id fingerprint
  once : ∀ id first second, CreatedWith writes id first → CreatedWith writes id second →
    first = second

theorem AgentStore.recallsCreation_empty : AgentStore.empty.RecallsCreation [] := by
  have hnone : ∀ id fingerprint, ¬ CreatedWith [] id fingerprint := by
    rintro id fingerprint ⟨before, record, hmoment, -⟩
    simp at hmoment
  refine ⟨?_, ?_, fun id first second hfirst => absurd hfirst (hnone id first)⟩
  · intro fingerprint id
    refine iff_of_false ?_ (hnone id fingerprint)
    rintro ⟨⟩
  · intro id
    exact iff_of_false (fun hstored => hstored rfl) fun ⟨fingerprint, hcreated⟩ =>
      hnone id fingerprint hcreated

/-- A write that neither creates an agent nor touches the index of fingerprints. -/
theorem AgentStore.RecallsCreation.mono {later : List AgentWrite} {store next : AgentStore}
    (hrecalls : store.RecallsCreation writes)
    (hcreated : ∀ id fingerprint, CreatedWith later id fingerprint ↔
      CreatedWith writes id fingerprint)
    (hindex : ∀ fingerprint, next.byFingerprint.get? fingerprint =
      store.byFingerprint.get? fingerprint)
    (hstored : ∀ id, next.get? id ≠ none ↔ store.get? id ≠ none) : next.RecallsCreation later := by
  refine ⟨?_, ?_, ?_⟩
  · intro fingerprint id
    rw [hindex, hcreated]
    exact hrecalls.index fingerprint id
  · intro id
    simp only [hstored, hcreated]
    exact hrecalls.stored id
  · intro id first second
    rw [hcreated, hcreated]
    exact hrecalls.once id first second

theorem AgentStore.RecallsCreation.added {store next : AgentStore} {record : AgentRecord}
    (hrecalls : store.RecallsCreation writes) (hadded : store.Added record next)
    (habsent : store.get? record.agentId = none)
    (hfree : store.byFingerprint.get? record.fingerprint = none)
    {later : List AgentWrite} (hcreated : ∀ id fingerprint, CreatedWith later id fingerprint ↔
      CreatedWith writes id fingerprint ∨
        (record.agentId = id ∧ record.fingerprint = fingerprint)) :
    next.RecallsCreation later := by
  have hunborn : ∀ fingerprint, ¬ CreatedWith writes record.agentId fingerprint := by
    intro fingerprint hearlier
    exact (hrecalls.stored _).2 ⟨fingerprint, hearlier⟩ habsent
  have hunused : ∀ id, ¬ CreatedWith writes id record.fingerprint := by
    intro id hearlier
    rw [(hrecalls.index _ _).2 hearlier] at hfree
    cases hfree
  refine ⟨?index, ?stored, ?once⟩
  case index =>
    intro fingerprint id
    rw [hadded.fingerprint, hcreated]
    by_cases hsame : fingerprint = record.fingerprint
    · subst hsame
      simp [hunused]
    · rw [if_neg hsame, hrecalls.index]
      exact (or_iff_left fun hlast => hsame hlast.2.symm).symm
  case stored =>
    intro id
    rw [hadded.get]
    simp only [hcreated, exists_or]
    by_cases hid : id = record.agentId
    · simp [hid]
    · rw [if_neg hid, hrecalls.stored]
      exact (or_iff_left fun ⟨_, hlast⟩ => hid hlast.1.symm).symm
  case once =>
    intro id first second
    rw [hcreated, hcreated]
    rintro (hfirst | ⟨rfl, rfl⟩) (hsecond | ⟨hid, rfl⟩)
    · exact hrecalls.once id first second hfirst hsecond
    · exact absurd (hid ▸ hfirst) (hunborn first)
    · exact absurd hsecond (hunborn second)
    · rfl

theorem AgentWrite.Effect.recallsCreation {write : AgentWrite} {next : AgentStore}
    (heffect : write.Effect (AgentStore.after writes) next)
    (hrecalls : (AgentStore.after writes).RecallsCreation writes)
    (habsent : ∀ record, write = .create record →
      (AgentStore.after writes).get? record.agentId = none) :
    next.RecallsCreation (writes ++ [write]) := by
  cases heffect with
  | refused _ hnone =>
      exact hrecalls.mono (createdWith_snoc_of_not hnone) (fun _ => rfl) fun _ => Iff.rfl
  | added hcreated hslot _ hadded =>
      exact hrecalls.added hadded (habsent _ rfl) hslot (createdWith_snoc_create hcreated)
  | @replaced previous record _ hprevious _ hreplaced =>
      refine hrecalls.mono (createdWith_snoc_of_not (by simp)) hreplaced.fingerprint ?_
      intro id
      rw [hreplaced.get]
      by_cases hid : id = record.agentId
      · simp [hid, hprevious]
      · rw [if_neg hid]

theorem AgentStore.after_recallsCreation (hnew : NewAgents writes) :
    (after writes).RecallsCreation writes := by
  induction hnew with
  | start => exact recallsCreation_empty
  | create hwrites habsent ih =>
      rw [after_snoc]
      exact (AgentWrite.effect (after_keysIndexed hwrites) _).recallsCreation ih
        (by rintro _ ⟨⟩; exact habsent)
  | update record hwrites ih =>
      rw [after_snoc]
      exact (AgentWrite.effect (after_keysIndexed hwrites) _).recallsCreation ih (by simp)

/-- What a store owes to the fingerprints in its records. -/
structure AgentStore.FingerprintsAnswer (store : AgentStore) : Prop where
  unique : ∀ first second record other, store.get? first = some record →
    store.get? second = some other → record.fingerprint = other.fingerprint → first = second
  found : ∀ fingerprint record, store.findByFingerprint? fingerprint = some record ↔
    (∃ id, store.get? id = some record) ∧ record.fingerprint = fingerprint
  taken : ∀ record, (store.create record).1 = .error .alreadyExists ↔
    ∃ id other, store.get? id = some other ∧ other.fingerprint = record.fingerprint

theorem AgentStore.create_alreadyExists_iff (store : AgentStore) (record : AgentRecord) :
    (store.create record).1 = .error .alreadyExists ↔
      ∃ holder, store.byFingerprint.get? record.fingerprint = some holder := by
  rcases store.create_cases record with ⟨holder, hslot, hcreate⟩ |
    ⟨holder, hslot, -, -, hcreate⟩ | ⟨hslot, -, next, hcreate, -⟩
  · simp [hcreate, hslot]
  · simp [hcreate, hslot]
  · simp [hcreate, hslot]

theorem AgentStore.FingerprintsIndexed.answer {store : AgentStore}
    (hstore : store.FingerprintsIndexed) : store.FingerprintsAnswer := by
  refine ⟨?_, hstore.find_iff, ?_⟩
  · intro first second record other hrecord hother hsame
    exact hstore.unique hrecord hother hsame
  · intro record
    rw [create_alreadyExists_iff]
    exact exists_congr fun holder => hstore record.fingerprint holder

/-- Every record has the fingerprint with which its agent was created. -/
def AgentStore.OriginalFingerprints (writes : List AgentWrite) (store : AgentStore) : Prop :=
  ∀ id record, store.get? id = some record → CreatedWith writes id record.fingerprint

theorem AgentStore.RecallsCreation.indexed {store : AgentStore}
    (hrecalls : store.RecallsCreation writes) (horiginal : store.OriginalFingerprints writes) :
    store.FingerprintsIndexed := by
  intro fingerprint id
  rw [hrecalls.index]
  constructor
  · intro hcreated
    obtain ⟨record, hrecord⟩ :=
      Option.ne_none_iff_exists'.1 ((hrecalls.stored id).2 ⟨fingerprint, hcreated⟩)
    exact ⟨record, hrecord, hrecalls.once id _ _ (horiginal id record hrecord) hcreated⟩
  · rintro ⟨record, hrecord, rfl⟩
    exact horiginal id record hrecord

/-- Every update that finds its agent keeps the fingerprint that it finds. -/
def KeepFingerprints (writes : List AgentWrite) : Prop :=
  ∀ before record found, before ++ [.update record] <+: writes →
    (AgentStore.after before).get? record.agentId = some found →
      record.fingerprint = found.fingerprint

theorem KeepFingerprints.before {write : AgentWrite}
    (hkeep : KeepFingerprints (writes ++ [write])) : KeepFingerprints writes :=
  fun before record found hmoment =>
    hkeep before record found (hmoment.trans (List.prefix_append _ _))

theorem KeepFingerprints.last {write : AgentWrite}
    (hkeep : KeepFingerprints (writes ++ [write])) (record found : AgentRecord)
    (hwrite : write = .update record)
    (hfound : (AgentStore.after writes).get? record.agentId = some found) :
    record.fingerprint = found.fingerprint := by
  subst hwrite
  exact hkeep writes record found (List.prefix_refl _) hfound

theorem AgentWrite.Effect.originalFingerprints {write : AgentWrite} {next : AgentStore}
    (heffect : write.Effect (AgentStore.after writes) next)
    (horiginal : (AgentStore.after writes).OriginalFingerprints writes)
    (hkeep : ∀ record found, write = .update record →
      (AgentStore.after writes).get? record.agentId = some found →
        record.fingerprint = found.fingerprint) :
    next.OriginalFingerprints (writes ++ [write]) := by
  intro id stored hstored
  rw [createdWith_snoc_iff]
  cases heffect with
  | refused => exact Or.inl (horiginal id stored hstored)
  | added hcreated _ _ hadded =>
      rw [hadded.get] at hstored
      split at hstored
      · next hid =>
          cases hstored
          exact Or.inr ⟨_, rfl, hcreated, hid.symm, rfl⟩
      · exact Or.inl (horiginal id stored hstored)
  | replaced hprevious _ hreplaced =>
      rw [hreplaced.get] at hstored
      split at hstored
      · next hid =>
          cases hstored
          rw [hid, hkeep _ _ rfl hprevious]
          exact Or.inl (horiginal _ _ hprevious)
      · exact Or.inl (horiginal id stored hstored)

theorem AgentStore.after_originalFingerprints (hnew : NewAgents writes)
    (hkeep : KeepFingerprints writes) : (after writes).OriginalFingerprints writes := by
  induction hnew with
  | start =>
      intro id record hrecord
      cases hrecord
  | create hwrites _ ih =>
      rw [after_snoc]
      exact (AgentWrite.effect (after_keysIndexed hwrites) _).originalFingerprints
        (ih hkeep.before) hkeep.last
  | update record hwrites ih =>
      rw [after_snoc]
      exact (AgentWrite.effect (after_keysIndexed hwrites) _).originalFingerprints
        (ih hkeep.before) hkeep.last

/-- What the index of fingerprints tells behind some writes. -/
structure AgentStore.FingerprintsOfCreation (writes : List AgentWrite) (store : AgentStore) :
    Prop where
  /-- A fingerprint leads to the agent that was created with it, and to what its record is now. -/
  found : ∀ fingerprint record, store.findByFingerprint? fingerprint = some record ↔
    ∃ id, CreatedWith writes id fingerprint ∧ store.get? id = some record
  /-- A creation is refused for its fingerprint if some agent was created with that. -/
  taken : ∀ record, (store.create record).1 = .error .alreadyExists ↔
    ∃ id, CreatedWith writes id record.fingerprint
  /-- Every agent was created with one fingerprint, and no two with the same. -/
  stored : ∀ id, store.get? id ≠ none ↔ ∃ fingerprint, CreatedWith writes id fingerprint
  once : ∀ id first second, CreatedWith writes id first → CreatedWith writes id second →
    first = second
  apart : ∀ fingerprint first second, CreatedWith writes first fingerprint →
    CreatedWith writes second fingerprint → first = second
  /-- So fingerprints are answered for by the records just where these still have the fingerprints
  of their creation. -/
  exact_iff : store.FingerprintsAnswer ↔ store.OriginalFingerprints writes
  /-- They are as long as updates keep the fingerprints that they find. -/
  kept : KeepFingerprints writes → store.FingerprintsAnswer

/-- Behind any creations of new agents and any updates, fingerprints lead to the agents that were
created with them. -/
theorem fingerprints_lead_to_creation (hnew : NewAgents writes) :
    (AgentStore.after writes).FingerprintsOfCreation writes := by
  have hrecalls := AgentStore.after_recallsCreation hnew
  have hfound : ∀ fingerprint record,
      (AgentStore.after writes).findByFingerprint? fingerprint = some record ↔
        ∃ id, CreatedWith writes id fingerprint ∧
          (AgentStore.after writes).get? id = some record := by
    intro fingerprint record
    simp only [AgentStore.findByFingerprint?, Option.bind_eq_some_iff, hrecalls.index]
  refine ⟨hfound, ?taken, hrecalls.stored, hrecalls.once, ?apart, ?exact_iff, ?kept⟩
  case taken =>
    intro record
    rw [AgentStore.create_alreadyExists_iff]
    exact exists_congr fun id => hrecalls.index record.fingerprint id
  case apart =>
    intro fingerprint first second hfirst hsecond
    have hslot := (hrecalls.index fingerprint first).2 hfirst
    exact Option.some.inj (hslot.symm.trans ((hrecalls.index fingerprint second).2 hsecond))
  case exact_iff =>
    refine ⟨?_, fun horiginal => (hrecalls.indexed horiginal).answer⟩
    intro hanswer id record hrecord
    have hleads := (hanswer.found record.fingerprint record).2 ⟨⟨id, hrecord⟩, rfl⟩
    obtain ⟨other, hcreated, hother⟩ := (hfound _ _).1 hleads
    rwa [hanswer.unique id other record record hrecord hother rfl]
  case kept =>
    intro hkeep
    exact (hrecalls.indexed (AgentStore.after_originalFingerprints hnew hkeep)).answer

/-- An agent on a new host takes the fingerprint along from which another one has moved away. -/
theorem fingerprints_lead_to_creation_of_move :
    let writes : List AgentWrite := [.create (recordOf "a" "host-1" "k1"),
      .create (recordOf "b" "host-3" "k2"), .update (recordOf "a" "host-2" "k1"),
      .update (recordOf "b" "host-1" "k2")]
    NewAgents writes ∧ (AgentStore.after writes).FingerprintsOfCreation writes ∧
      (AgentStore.after writes).findByFingerprint? "host-1" =
        some (recordOf "a" "host-2" "k1") := by
  intro writes
  have hcreated : NewAgents [.create (recordOf "a" "host-1" "k1"),
      .create (recordOf "b" "host-3" "k2")] := .create (.create .start rfl) rfl
  have hnew : NewAgents writes := .update _ (.update _ hcreated)
  exact ⟨hnew, fingerprints_lead_to_creation hnew, by decide⟩

/-- An update to another fingerprint: the new one leads nowhere, the old one still leads to the
record that no longer has it, and another agent can be created with the new one as well. -/
theorem changed_fingerprint_goes_astray :
    let writes : List AgentWrite := [.create (recordOf "a" "host-1" "k1"),
      .update (recordOf "a" "host-2" "k1")]
    let store := AgentStore.after writes
    let next := AgentStore.after (writes ++ [.create (recordOf "b" "host-2" "k2")])
    NewAgents (writes ++ [.create (recordOf "b" "host-2" "k2")]) ∧
      (AgentStore.after [.create (recordOf "a" "host-1" "k1")]).get? "a" ≠ none ∧
      store.get? "a" = some (recordOf "a" "host-2" "k1") ∧
      store.findByFingerprint? "host-2" = none ∧
      store.findByFingerprint? "host-1" = some (recordOf "a" "host-2" "k1") ∧
      (store.create (recordOf "b" "host-2" "k2")).1 = .ok () ∧
      (next.get? "a").map AgentRecord.fingerprint = some "host-2" ∧
      (next.get? "b").map AgentRecord.fingerprint = some "host-2" ∧
      ¬ store.FingerprintsAnswer ∧ ¬ next.FingerprintsAnswer := by
  intro writes store next
  have hnew : NewAgents (writes ++ [.create (recordOf "b" "host-2" "k2")]) :=
    .create (.update _ (.create .start rfl)) rfl
  have hmoved : store.get? "a" = some (recordOf "a" "host-2" "k1") := by decide
  have hfirst : next.get? "a" = some (recordOf "a" "host-2" "k1") := by decide
  have hsecond : next.get? "b" = some (recordOf "b" "host-2" "k2") := by decide
  refine ⟨hnew, by decide, hmoved, by decide, by decide, by decide, by rw [hfirst]; rfl,
    by rw [hsecond]; rfl, ?_, ?_⟩
  · intro hanswer
    have hleads := (hanswer.found "host-2" _).2 ⟨⟨"a", hmoved⟩, rfl⟩
    exact absurd hleads (by decide)
  · intro hanswer
    exact absurd (hanswer.unique "a" "b" _ _ hfirst hsecond rfl) (by decide)

end Muster.Store
