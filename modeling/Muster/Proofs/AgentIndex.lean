import Muster.Store.AgentStore
/-!
The two indexes of the store of agents. An index is exact if it leads to an agent precisely where
that agent's record holds the fingerprint or the key; creating and updating keep it so.
-/
namespace Muster.Store

/-- Every record is kept under its own id. -/
def AgentStore.Named (store : AgentStore) : Prop :=
  ∀ id record, store.get? id = some record → record.agentId = id

/-- A fingerprint leads to the agent that has it, and to no other. -/
def AgentStore.FingerprintsIndexed (store : AgentStore) : Prop :=
  ∀ fingerprint id, store.byFingerprint.get? fingerprint = some id ↔
    ∃ record, store.get? id = some record ∧ record.fingerprint = fingerprint

/-- A key leads to the agent that holds it, and to no other. The empty key is no key. -/
def AgentStore.KeysIndexed (store : AgentStore) : Prop :=
  ∀ key id, store.byPublicKey.get? key = some id ↔
    ∃ record, store.get? id = some record ∧ record.publicKey = key ∧ key ≠ ""

/-- Records and indexes fit together. -/
structure AgentStore.Indexed (store : AgentStore) : Prop where
  named : store.Named
  fingerprints : store.FingerprintsIndexed
  keys : store.KeysIndexed

theorem AgentStore.indexed_empty : AgentStore.empty.Indexed := by
  refine ⟨?_, ?_, ?_⟩
  · intro id record hrecord
    cases hrecord
  · intro fingerprint id
    simp [empty, get?]
  · intro key id
    simp [empty, get?]

theorem AgentStore.FingerprintsIndexed.find_iff {store : AgentStore}
    (hstore : store.FingerprintsIndexed) (fingerprint : String) (record : AgentRecord) :
    store.findByFingerprint? fingerprint = some record ↔
      (∃ id, store.get? id = some record) ∧ record.fingerprint = fingerprint := by
  simp only [findByFingerprint?, Option.bind_eq_some_iff]
  constructor
  · rintro ⟨id, hindex, hrecord⟩
    obtain ⟨found, hfound, hfingerprint⟩ := (hstore fingerprint id).1 hindex
    rw [hrecord] at hfound
    cases hfound
    exact ⟨⟨id, hrecord⟩, hfingerprint⟩
  · rintro ⟨⟨id, hrecord⟩, hfingerprint⟩
    exact ⟨id, (hstore fingerprint id).2 ⟨record, hrecord, hfingerprint⟩, hrecord⟩

theorem AgentStore.KeysIndexed.find_iff {store : AgentStore} (hstore : store.KeysIndexed)
    (key : String) (record : AgentRecord) :
    store.findByPublicKey? key = some record ↔
      (∃ id, store.get? id = some record) ∧ record.publicKey = key ∧ key ≠ "" := by
  simp only [findByPublicKey?, Option.bind_eq_some_iff]
  constructor
  · rintro ⟨id, hindex, hrecord⟩
    obtain ⟨found, hfound, hkey⟩ := (hstore key id).1 hindex
    rw [hrecord] at hfound
    cases hfound
    exact ⟨⟨id, hrecord⟩, hkey⟩
  · rintro ⟨⟨id, hrecord⟩, hkey⟩
    exact ⟨id, (hstore key id).2 ⟨record, hrecord, hkey⟩, hrecord⟩

theorem AgentStore.FingerprintsIndexed.unique {store : AgentStore}
    (hstore : store.FingerprintsIndexed) {first second : String} {record other : AgentRecord}
    (hrecord : store.get? first = some record) (hother : store.get? second = some other)
    (hsame : record.fingerprint = other.fingerprint) : first = second := by
  have hfirst := (hstore record.fingerprint first).2 ⟨record, hrecord, rfl⟩
  have hsecond := (hstore record.fingerprint second).2 ⟨other, hother, hsame.symm⟩
  exact Option.some.inj (hfirst.symm.trans hsecond)

theorem AgentStore.KeysIndexed.unique {store : AgentStore} (hstore : store.KeysIndexed)
    {first second : String} {record other : AgentRecord}
    (hrecord : store.get? first = some record) (hother : store.get? second = some other)
    (hsame : record.publicKey = other.publicKey) (hkey : record.publicKey ≠ "") :
    first = second := by
  have hfirst := (hstore record.publicKey first).2 ⟨record, hrecord, rfl, hkey⟩
  have hsecond := (hstore record.publicKey second).2 ⟨other, hother, hsame.symm, hkey⟩
  exact Option.some.inj (hfirst.symm.trans hsecond)

theorem AgentStore.KeysIndexed.empty_key {store : AgentStore} (hstore : store.KeysIndexed) :
    store.byPublicKey.get? "" = none := by
  cases hindex : store.byPublicKey.get? "" with
  | none => rfl
  | some id =>
      obtain ⟨_, _, _, hne⟩ := (hstore "" id).1 hindex
      exact absurd rfl hne

/-- One store is another with a new agent. -/
structure AgentStore.Added (store : AgentStore) (record : AgentRecord) (next : AgentStore) :
    Prop where
  get : ∀ id, next.get? id = if id = record.agentId then some record else store.get? id
  fingerprint : ∀ fingerprint, next.byFingerprint.get? fingerprint =
    if fingerprint = record.fingerprint then some record.agentId
    else store.byFingerprint.get? fingerprint
  key : ∀ key, next.byPublicKey.get? key =
    if key = record.publicKey ∧ key ≠ "" then some record.agentId
    else store.byPublicKey.get? key

/-- One store is another with a record in place of the one that its agent had. The former key is
free again. -/
structure AgentStore.Replaced (store : AgentStore) (previous record : AgentRecord)
    (next : AgentStore) : Prop where
  get : ∀ id, next.get? id = if id = record.agentId then some record else store.get? id
  fingerprint : ∀ fingerprint,
    next.byFingerprint.get? fingerprint = store.byFingerprint.get? fingerprint
  key : ∀ key, next.byPublicKey.get? key =
    if key = record.publicKey ∧ key ≠ "" then some record.agentId
    else if key = previous.publicKey then none
    else store.byPublicKey.get? key

/-- A creation is refused for the fingerprint, then for the key, or adds the agent. -/
theorem AgentStore.create_cases (store : AgentStore) (record : AgentRecord) :
    (∃ holder, store.byFingerprint.get? record.fingerprint = some holder ∧
      store.create record = (.error .alreadyExists, store)) ∨
    (∃ holder, store.byFingerprint.get? record.fingerprint = none ∧ record.publicKey ≠ "" ∧
      store.byPublicKey.get? record.publicKey = some holder ∧
      store.create record = (.error (.keyInUse holder), store)) ∨
    (store.byFingerprint.get? record.fingerprint = none ∧
      (record.publicKey ≠ "" → store.byPublicKey.get? record.publicKey = none) ∧
      ∃ next, store.create record = (.ok (), next) ∧ store.Added record next) := by
  cases hfingerprint : store.byFingerprint.get? record.fingerprint with
  | some holder =>
      exact Or.inl ⟨holder, rfl, by simp [create, Table.contains, hfingerprint]⟩
  | none =>
      refine Or.inr ?_
      by_cases hempty : record.publicKey = ""
      · refine Or.inr ⟨rfl, fun hne => absurd hempty hne, _,
          by simp only [create, Table.contains, hfingerprint, hempty]; rfl, ?_⟩
        refine ⟨?_, ?_, ?_⟩
        · intro id
          simp [get?, putRecord, Table.get?_insert]
        · intro fingerprint
          simp [putRecord, Table.get?_insert]
        · intro key
          by_cases hkey : key = "" <;> simp [putRecord, hempty, hkey]
      · cases hkey : store.byPublicKey.get? record.publicKey with
        | some holder =>
            exact Or.inl ⟨holder, rfl, hempty, rfl,
              by simp [create, Table.contains, hfingerprint, hempty, hkey]⟩
        | none =>
            refine Or.inr ⟨rfl, fun _ => rfl, _,
              by simp only [create, Table.contains, hfingerprint, hkey, hempty,
                String.isEmpty_iff]; rfl, ?_⟩
            refine ⟨?_, ?_, ?_⟩
            · intro id
              simp [get?, putRecord, takeKey, Table.get?_insert]
            · intro fingerprint
              simp [putRecord, takeKey, Table.get?_insert]
            · intro key
              by_cases hsame : key = record.publicKey <;>
                simp [putRecord, takeKey, Table.get?_insert, hempty, hsame]

theorem AgentStore.replace_of_some {store : AgentStore} {record previous : AgentRecord}
    (hprevious : store.get? record.agentId = some previous) (key : String) :
    store.replace record key = (.written key, store.putRecord record) := by
  have hcontains : store.records.contains record.agentId = true := by
    exact Option.isSome_iff_exists.2 ⟨previous, hprevious⟩
  simp [replace, hcontains]

/-- The write of an update whose key the agent has already, or that has none. -/
theorem AgentStore.writeRecord_of_kept {store : AgentStore} {record previous : AgentRecord}
    (hprevious : store.get? record.agentId = some previous)
    (hkey : record.publicKey = previous.publicKey ∨ record.publicKey = "") :
    store.writeRecord record previous.publicKey =
      (.written previous.publicKey, store.putRecord record) := by
  simp [writeRecord, hkey, replace_of_some hprevious]

theorem AgentStore.writeRecord_of_free {store : AgentStore} {record previous : AgentRecord}
    (hprevious : store.get? record.agentId = some previous)
    (hchanged : record.publicKey ≠ previous.publicKey) (hempty : record.publicKey ≠ "")
    (hfree : store.byPublicKey.get? record.publicKey = none) :
    store.writeRecord record previous.publicKey =
      (.written previous.publicKey,
        (store.putRecord record).takeKey record.publicKey record.agentId) := by
  simp [writeRecord, hchanged, hempty, hfree, replace_of_some hprevious]

theorem AgentStore.writeRecord_of_held {store : AgentStore} {record previous : AgentRecord}
    {holder : String} (hchanged : record.publicKey ≠ previous.publicKey)
    (hempty : record.publicKey ≠ "")
    (hheld : store.byPublicKey.get? record.publicKey = some holder)
    (hother : holder ≠ record.agentId) :
    store.writeRecord record previous.publicKey = (.over (.error (.keyInUse holder)), store) := by
  simp [writeRecord, hchanged, hempty, hheld, hother]

/-- Releasing leaves all but the index of keys alone, and takes at most the former key out of it. -/
theorem AgentStore.key_releaseKey (store : AgentStore) (record : AgentRecord)
    (previous key : String) :
    (store.releaseKey record previous).byPublicKey.get? key =
      if key = previous ∧ previous ≠ record.publicKey ∧ previous ≠ "" ∧
          store.byPublicKey.get? previous = some record.agentId then none
      else store.byPublicKey.get? key := by
  by_cases hrelease : previous ≠ record.publicKey ∧ previous ≠ "" ∧
      store.byPublicKey.get? previous = some record.agentId
  · obtain ⟨hchanged, hempty, howner⟩ := hrelease
    simp [releaseKey, hchanged, hempty, howner, Table.get?_erase]
  · have hkept : store.releaseKey record previous = store := by
      simp only [releaseKey]
      rw [if_neg]
      simpa using hrelease
    rw [hkept, if_neg]
    exact fun hboth => hrelease hboth.2

@[simp] theorem AgentStore.get?_releaseKey (store : AgentStore) (record : AgentRecord)
    (previous id : String) : (store.releaseKey record previous).get? id = store.get? id := by
  simp only [releaseKey]
  split <;> rfl

@[simp] theorem AgentStore.byFingerprint_releaseKey (store : AgentStore) (record : AgentRecord)
    (previous : String) :
    (store.releaseKey record previous).byFingerprint = store.byFingerprint := by
  simp only [releaseKey]
  split <;> rfl

theorem AgentStore.get?_putRecord (store : AgentStore) (record : AgentRecord) (id : String) :
    (store.putRecord record).get? id = if id = record.agentId then some record else store.get? id :=
  Table.get?_insert store.records record.agentId id record

/-- The last step of an update: once the record and the slot of its key are written, releasing the
former key completes the replacement. -/
theorem AgentStore.KeysIndexed.replaced_releaseKey {store written : AgentStore}
    (hstore : store.KeysIndexed) {record previous : AgentRecord}
    (hprevious : store.get? record.agentId = some previous)
    (hget : ∀ id, written.get? id = if id = record.agentId then some record else store.get? id)
    (hfingerprint : written.byFingerprint = store.byFingerprint)
    (hkey : ∀ key, written.byPublicKey.get? key =
      if key = record.publicKey ∧ key ≠ "" then some record.agentId
      else store.byPublicKey.get? key) :
    store.Replaced previous record (written.releaseKey record previous.publicKey) where
  get id := by rw [get?_releaseKey, hget]
  fingerprint fingerprint := by rw [byFingerprint_releaseKey, hfingerprint]
  key key := by
    rw [key_releaseKey, hkey, hkey]
    by_cases hnew : key = record.publicKey ∧ key ≠ ""
    · obtain ⟨rfl, hempty⟩ := hnew
      rw [if_neg]
      · simp [hempty]
      · rintro ⟨hsame, hchanged, _⟩
        exact hchanged hsame.symm
    · simp only [hnew, ↓reduceIte]
      by_cases hsame : key = previous.publicKey
      · subst hsame
        by_cases hempty : previous.publicKey = ""
        · simp [hempty, hstore.empty_key]
        · have howner : store.byPublicKey.get? previous.publicKey = some record.agentId :=
            (hstore _ _).2 ⟨previous, hprevious, rfl, hempty⟩
          have hchanged : previous.publicKey ≠ record.publicKey := fun heq => hnew ⟨heq, hempty⟩
          simp [hempty, hchanged, howner]
      · simp [hsame]

/-- The key of the record that an agent has is taken already. -/
theorem AgentStore.KeysIndexed.key_putRecord {store : AgentStore} (hstore : store.KeysIndexed)
    {record previous : AgentRecord} (hprevious : store.get? record.agentId = some previous)
    (hkept : record.publicKey = previous.publicKey ∨ record.publicKey = "") (key : String) :
    (store.putRecord record).byPublicKey.get? key =
      if key = record.publicKey ∧ key ≠ "" then some record.agentId
      else store.byPublicKey.get? key := by
  change store.byPublicKey.get? key = _
  by_cases hnew : key = record.publicKey ∧ key ≠ ""
  · obtain ⟨rfl, hempty⟩ := hnew
    rw [if_pos ⟨rfl, hempty⟩]
    rcases hkept with hkept | hblank
    · exact (hstore _ _).2 ⟨previous, hprevious, hkept.symm, hempty⟩
    · exact absurd hblank hempty
  · rw [if_neg hnew]

theorem AgentStore.key_takeKey_putRecord (store : AgentStore) {record : AgentRecord}
    (hempty : record.publicKey ≠ "") (key : String) :
    ((store.putRecord record).takeKey record.publicKey record.agentId).byPublicKey.get? key =
      if key = record.publicKey ∧ key ≠ "" then some record.agentId
      else store.byPublicKey.get? key := by
  by_cases hsame : key = record.publicKey <;>
    simp [takeKey, putRecord, Table.get?_insert, hsame, hempty]

theorem AgentStore.update_of_written {store written : AgentStore} {record previous : AgentRecord}
    (hprevious : store.get? record.agentId = some previous)
    (hwrite : store.writeRecord record previous.publicKey =
      (.written previous.publicKey, written)) :
    store.update record = (.ok (), written.releaseKey record previous.publicKey) := by
  simp [update, readPreviousKey, hprevious, hwrite]

/-- An update is refused for an unknown agent or a key that another agent holds; otherwise it puts
the record in place. -/
theorem AgentStore.KeysIndexed.update_cases {store : AgentStore} (hstore : store.KeysIndexed)
    (record : AgentRecord) :
    (store.get? record.agentId = none ∧ store.update record = (.error .notFound, store)) ∨
    (∃ holder, holder ≠ record.agentId ∧ record.publicKey ≠ "" ∧
      store.byPublicKey.get? record.publicKey = some holder ∧
      (∃ previous, store.get? record.agentId = some previous) ∧
      store.update record = (.error (.keyInUse holder), store)) ∨
    (∃ previous next, store.get? record.agentId = some previous ∧
      (∀ holder, record.publicKey ≠ "" → store.byPublicKey.get? record.publicKey = some holder →
        holder = record.agentId) ∧
      store.update record = (.ok (), next) ∧ store.Replaced previous record next) := by
  cases hprevious : store.get? record.agentId with
  | none => exact Or.inl ⟨rfl, by simp [update, readPreviousKey, hprevious]⟩
  | some previous =>
      refine Or.inr ?_
      by_cases hkept : record.publicKey = previous.publicKey ∨ record.publicKey = ""
      · refine Or.inr ⟨previous, _, rfl, ?_,
          update_of_written hprevious (writeRecord_of_kept hprevious hkept),
          hstore.replaced_releaseKey hprevious (store.get?_putRecord record) rfl
            (hstore.key_putRecord hprevious hkept)⟩
        intro holder hempty hheld
        have hown : store.byPublicKey.get? record.publicKey = some record.agentId :=
          (hstore _ _).2 ⟨previous, hprevious, (hkept.resolve_right hempty).symm, hempty⟩
        exact Option.some.inj (hheld.symm.trans hown)
      · have hchanged : record.publicKey ≠ previous.publicKey := fun heq => hkept (Or.inl heq)
        have hempty : record.publicKey ≠ "" := fun heq => hkept (Or.inr heq)
        cases hheld : store.byPublicKey.get? record.publicKey with
        | none =>
            refine Or.inr ⟨previous, _, rfl, ?_,
              update_of_written hprevious (writeRecord_of_free hprevious hchanged hempty hheld),
              hstore.replaced_releaseKey hprevious (store.get?_putRecord record) rfl
                (store.key_takeKey_putRecord hempty)⟩
            intro holder _ hnone
            cases hnone
        | some holder =>
            -- the slot cannot be the agent's own, for its key was another one
            have hother : holder ≠ record.agentId := by
              rintro rfl
              obtain ⟨found, hfound, hkey, _⟩ := (hstore _ _).1 hheld
              rw [hprevious] at hfound
              cases hfound
              exact hchanged hkey.symm
            have hwrite := writeRecord_of_held hchanged hempty hheld hother
            exact Or.inl ⟨holder, hother, hempty, rfl, ⟨previous, rfl⟩,
              by simp [update, readPreviousKey, hprevious, hwrite]⟩

/-- The index of fingerprints stays exact with a new agent whose fingerprint was free. -/
theorem AgentStore.Added.fingerprintsIndexed {store next : AgentStore} {record : AgentRecord}
    (hadded : store.Added record next) (hstore : store.FingerprintsIndexed)
    (hfresh : store.get? record.agentId = none)
    (hfree : store.byFingerprint.get? record.fingerprint = none) : next.FingerprintsIndexed := by
  intro fingerprint id
  rw [hadded.fingerprint, hadded.get]
  by_cases hsame : fingerprint = record.fingerprint
  · subst hsame
    by_cases hid : id = record.agentId
    · simp [hid]
    · have hnone := hstore record.fingerprint id
      simp only [hfree, reduceCtorEq, false_iff] at hnone
      simpa [hid, Ne.symm hid] using hnone
  · rw [if_neg hsame, hstore]
    by_cases hid : id = record.agentId
    · simp [hid, hfresh, Ne.symm hsame]
    · simp [hid]

/-- The index of keys stays exact with a new agent whose key was free. -/
theorem AgentStore.Added.keysIndexed {store next : AgentStore} {record : AgentRecord}
    (hadded : store.Added record next) (hstore : store.KeysIndexed)
    (hfresh : store.get? record.agentId = none)
    (hfree : record.publicKey ≠ "" → store.byPublicKey.get? record.publicKey = none) :
    next.KeysIndexed := by
  intro key id
  rw [hadded.key, hadded.get]
  by_cases hsame : key = record.publicKey ∧ key ≠ ""
  · obtain ⟨rfl, hempty⟩ := hsame
    by_cases hid : id = record.agentId
    · simp [hid, hempty]
    · have hnone := hstore record.publicKey id
      simp only [hfree hempty, reduceCtorEq, false_iff] at hnone
      simpa [hid, Ne.symm hid, hempty] using hnone
  · rw [if_neg hsame, hstore]
    by_cases hid : id = record.agentId
    · simp only [hid, hfresh, reduceCtorEq, false_and, exists_false, ↓reduceIte,
        Option.some.injEq, false_iff, not_exists, not_and]
      rintro _ rfl hkey hempty
      exact hsame ⟨hkey.symm, hempty⟩
    · simp [hid]

/-- The index of fingerprints stays exact as long as a record keeps its fingerprint. -/
theorem AgentStore.Replaced.fingerprintsIndexed {store next : AgentStore}
    {previous record : AgentRecord} (hreplaced : store.Replaced previous record next)
    (hstore : store.FingerprintsIndexed)
    (hprevious : store.get? record.agentId = some previous)
    (hkept : record.fingerprint = previous.fingerprint) : next.FingerprintsIndexed := by
  intro fingerprint id
  rw [hreplaced.fingerprint, hreplaced.get, hstore]
  by_cases hid : id = record.agentId
  · simp [hid, hprevious, hkept]
  · simp [hid]

/-- The index of keys stays exact with a record whose key was free or its agent's own. -/
theorem AgentStore.Replaced.keysIndexed {store next : AgentStore}
    {previous record : AgentRecord} (hreplaced : store.Replaced previous record next)
    (hstore : store.KeysIndexed) (hprevious : store.get? record.agentId = some previous)
    (hown : ∀ holder, record.publicKey ≠ "" →
      store.byPublicKey.get? record.publicKey = some holder → holder = record.agentId) :
    next.KeysIndexed := by
  have hget : ∀ id found, id ≠ record.agentId → (next.get? id = some found ↔
      store.get? id = some found) := by
    intro id found hid
    rw [hreplaced.get, if_neg hid]
  have hnew : next.get? record.agentId = some record := by rw [hreplaced.get, if_pos rfl]
  intro key id
  rw [hreplaced.key]
  by_cases hid : id = record.agentId
  · subst hid
    simp only [hnew, Option.some.injEq, exists_eq_left']
    by_cases hsame : key = record.publicKey ∧ key ≠ ""
    · simp [hsame.1.symm, hsame.2]
    · have hnot : ¬ (record.publicKey = key ∧ key ≠ "") :=
        fun hboth => hsame ⟨hboth.1.symm, hboth.2⟩
      simp only [hsame, hnot, ↓reduceIte, iff_false]
      by_cases hformer : key = previous.publicKey
      · simp [hformer]
      · rw [if_neg hformer, hstore]
        rintro ⟨found, hfound, hkey, _⟩
        rw [hprevious] at hfound
        cases hfound
        exact hformer hkey.symm
  · by_cases hsame : key = record.publicKey ∧ key ≠ ""
    · obtain ⟨rfl, hempty⟩ := hsame
      rw [if_pos ⟨rfl, hempty⟩]
      constructor
      · intro heq
        exact absurd (Option.some.inj heq).symm hid
      · rintro ⟨found, hfound, hkey, _⟩
        have hheld := (hstore record.publicKey id).2
          ⟨found, (hget id found hid).1 hfound, hkey, hempty⟩
        exact absurd (hown id hempty hheld) hid
    · rw [if_neg hsame]
      by_cases hformer : key = previous.publicKey
      · subst hformer
        simp only [↓reduceIte, reduceCtorEq, false_iff, not_exists, not_and]
        intro found hfound hkey hempty
        exact hid (hstore.unique ((hget id found hid).1 hfound) hprevious hkey (hkey ▸ hempty))
      · rw [if_neg hformer, hstore]
        constructor
        · rintro ⟨found, hfound, hkey⟩
          exact ⟨found, (hget id found hid).2 hfound, hkey⟩
        · rintro ⟨found, hfound, hkey⟩
          exact ⟨found, (hget id found hid).1 hfound, hkey⟩

theorem AgentStore.Added.indexed {store next : AgentStore} {record : AgentRecord}
    (hadded : store.Added record next) (hstore : store.Indexed)
    (hfresh : store.get? record.agentId = none)
    (hfingerprint : store.byFingerprint.get? record.fingerprint = none)
    (hkey : record.publicKey ≠ "" → store.byPublicKey.get? record.publicKey = none) :
    next.Indexed := by
  refine ⟨?_, hadded.fingerprintsIndexed hstore.fingerprints hfresh hfingerprint,
    hadded.keysIndexed hstore.keys hfresh hkey⟩
  intro id found hfound
  rw [hadded.get] at hfound
  split at hfound
  · cases hfound
    exact Eq.symm ‹_›
  · exact hstore.named id found hfound

theorem AgentStore.Replaced.indexed {store next : AgentStore} {previous record : AgentRecord}
    (hreplaced : store.Replaced previous record next) (hstore : store.Indexed)
    (hprevious : store.get? record.agentId = some previous)
    (hkept : record.fingerprint = previous.fingerprint)
    (hown : ∀ holder, record.publicKey ≠ "" →
      store.byPublicKey.get? record.publicKey = some holder → holder = record.agentId) :
    next.Indexed := by
  refine ⟨?_, hreplaced.fingerprintsIndexed hstore.fingerprints hprevious hkept,
    hreplaced.keysIndexed hstore.keys hprevious hown⟩
  intro id found hfound
  rw [hreplaced.get] at hfound
  split at hfound
  · cases hfound
    exact Eq.symm ‹_›
  · exact hstore.named id found hfound

end Muster.Store
