import Mathlib.Data.Finset.Card
import Mathlib.Data.List.Induction
import Muster.Store.NonceCache
/-!
How large the replay cache becomes if nobody sweeps it from outside. Every 128th record sweeps out
what has expired, so that at any time all entries but those of the last few records were still alive
at the last sweep.
-/
namespace Muster.Store

section Table

variable {κ α : Type} [DecidableEq κ]

theorem Table.size_le_card {table : Table κ α} {keys : Finset κ}
    (hkeys : ∀ key value, table.get? key = some value → key ∈ keys) : table.size ≤ keys.card := by
  have hsize : table.size = (table.entries.map Prod.fst).toFinset.card := by
    rw [List.toFinset_card_of_nodup table.distinct, List.length_map, size]
  rw [hsize]
  apply Finset.card_le_card
  intro key hkey
  obtain ⟨⟨_, value⟩, hentry, rfl⟩ := List.mem_map.1 (List.mem_toFinset.1 hkey)
  exact hkeys _ value ((table.get?_eq_some_iff _ value).2 hentry)

end Table

/-- A nonce that an agent brings at a time, and how long it is to be remembered. -/
structure NonceUse where
  agentId : String
  nonce : String
  expiresAt : Int
  now : Int
deriving DecidableEq

/-- What the cache tells nonces apart by. -/
def NonceUse.pair (use : NonceUse) : String × String :=
  (use.agentId, use.nonce)

/-- The cache and all that it has recorded, the last record first. -/
structure CacheLog where
  cache : NonceCache
  recorded : List NonceUse

/-- The cache behind one more use. A nonce that is not free is not recorded. -/
def CacheLog.step (log : CacheLog) (use : NonceUse) : CacheLog :=
  match log.cache.checkAndInsert use.agentId use.nonce use.expiresAt use.now with
  | (true, cache) => ⟨cache, use :: log.recorded⟩
  | (false, cache) => ⟨cache, log.recorded⟩

def CacheLog.run (uses : List NonceUse) : CacheLog :=
  uses.foldl CacheLog.step ⟨NonceCache.empty, []⟩

/-- What has been recorded since the last sweep. -/
def CacheLog.late (log : CacheLog) : List NonceUse :=
  log.recorded.take (log.recorded.length % sweepEvery)

/-- What had been recorded by then, the record that brought the sweep about among it. -/
def CacheLog.early (log : CacheLog) : List NonceUse :=
  log.recorded.drop (log.recorded.length % sweepEvery)

def CacheLog.sweptAt? (log : CacheLog) : Option Int :=
  log.early.head?.map NonceUse.now

/-- The pairs that were recorded to be remembered until a time or longer. -/
def CacheLog.lasting (log : CacheLog) (time : Int) : Finset (String × String) :=
  ((log.recorded.filter (time ≤ ·.expiresAt)).map NonceUse.pair).toFinset

/-- A use leaves everything as it is, or is recorded. The record sweeps if it makes up the number. -/
theorem CacheLog.step_cases (log : CacheLog) (use : NonceUse) :
    (log.cache.isFresh use.agentId use.nonce use.now = false ∧ log.step use = log) ∨
    (log.cache.isFresh use.agentId use.nonce use.now = true ∧
      log.step use = ⟨log.cache.record use.agentId use.nonce use.expiresAt use.now,
        use :: log.recorded⟩) := by
  cases hfree : log.cache.isFresh use.agentId use.nonce use.now with
  | false => exact Or.inl ⟨rfl, by simp [step, NonceCache.checkAndInsert, hfree]⟩
  | true => exact Or.inr ⟨rfl, by simp [step, NonceCache.checkAndInsert, hfree]⟩

/-- An entry behind a record is the new one or an old one, and still alive if the record sweeps. -/
theorem NonceCache.get?_record {cache : NonceCache} {use : NonceUse} {pair : String × String}
    {expiry : Int}
    (hentry : (cache.record use.agentId use.nonce use.expiresAt use.now).seen.get? pair =
      some expiry) :
    ((pair = use.pair ∧ expiry = use.expiresAt) ∨ cache.seen.get? pair = some expiry) ∧
      (sweepEvery ∣ cache.inserts + 1 → use.now ≤ expiry) := by
  have hinserted : (cache.seen.insert use.pair use.expiresAt).get? pair = some expiry →
      (pair = use.pair ∧ expiry = use.expiresAt) ∨ cache.seen.get? pair = some expiry := by
    rw [Table.get?_insert]
    split
    · next hsame =>
        rintro ⟨⟩
        exact Or.inl ⟨hsame, rfl⟩
    · exact Or.inr
  simp only [record] at hentry
  split at hentry
  · simp only [evictExpired, Table.get?_filter, Option.filter_eq_some_iff,
      decide_eq_true_eq] at hentry
    exact ⟨hinserted hentry.1, fun _ => hentry.2⟩
  · next hturn => exact ⟨hinserted hentry, fun hdvd => absurd (Nat.mod_eq_zero_of_dvd hdvd) hturn⟩

theorem NonceCache.inserts_record (cache : NonceCache) (agentId nonce : String)
    (expiresAt now : Int) : (cache.record agentId nonce expiresAt now).inserts = cache.inserts + 1 := by
  simp only [record]
  split <;> rfl

section Record

variable {log : CacheLog} {use : NonceUse} (cache : NonceCache)

/-- Behind a sweep nothing is late. -/
theorem CacheLog.early_of_sweep (hturn : sweepEvery ∣ log.recorded.length + 1) :
    (CacheLog.mk cache (use :: log.recorded)).early = use :: log.recorded := by
  rw [early, List.length_cons, Nat.mod_eq_zero_of_dvd hturn, List.drop_zero]

theorem length_mod_succ (hturn : ¬ sweepEvery ∣ log.recorded.length + 1) :
    (log.recorded.length + 1) % sweepEvery = log.recorded.length % sweepEvery + 1 := by
  rw [sweepEvery] at *
  omega

/-- Without a sweep, one more record is late. -/
theorem CacheLog.late_of_no_sweep (hturn : ¬ sweepEvery ∣ log.recorded.length + 1) :
    (CacheLog.mk cache (use :: log.recorded)).late = use :: log.late := by
  rw [late, List.length_cons, length_mod_succ hturn, List.take_succ_cons, late]

theorem CacheLog.early_of_no_sweep (hturn : ¬ sweepEvery ∣ log.recorded.length + 1) :
    (CacheLog.mk cache (use :: log.recorded)).early = log.early := by
  rw [early, List.length_cons, length_mod_succ hturn, List.drop_succ_cons, early]

end Record

def NonceUse.Made (use : NonceUse) (pair : String × String) (expiry : Int) : Prop :=
  use.pair = pair ∧ use.expiresAt = expiry

/-- What the log tells about the cache: how many records there were, and for every entry one that has
made it. Those of before the last sweep have survived it. -/
structure CacheLog.Tracked (log : CacheLog) : Prop where
  counted : log.cache.inserts = log.recorded.length
  made : ∀ pair expiry, log.cache.seen.get? pair = some expiry →
    (∃ use ∈ log.late, use.Made pair expiry) ∨
    ∃ use ∈ log.early, use.Made pair expiry ∧ ∀ swept, log.sweptAt? = some swept → swept ≤ expiry

theorem CacheLog.mem_recorded {log : CacheLog} {use : NonceUse} :
    use ∈ log.recorded ↔ use ∈ log.late ∨ use ∈ log.early := by
  rw [late, early, ← List.mem_append, List.take_append_drop]

theorem CacheLog.Tracked.step {log : CacheLog} (hlog : log.Tracked) (use : NonceUse) :
    (log.step use).Tracked := by
  rcases log.step_cases use with ⟨_, hsame⟩ | ⟨_, hrecord⟩
  · rwa [hsame]
  rw [hrecord]
  refine ⟨?_, ?_⟩
  · rw [NonceCache.inserts_record, hlog.counted, List.length_cons]
  intro pair expiry hentry
  obtain ⟨hfrom, halive⟩ := NonceCache.get?_record hentry
  rw [hlog.counted] at halive
  by_cases hturn : sweepEvery ∣ log.recorded.length + 1
  · -- the sweep makes everything early, and what it leaves is alive
    right
    have hswept : ∀ swept, (CacheLog.mk (log.cache.record use.agentId use.nonce use.expiresAt
        use.now) (use :: log.recorded)).sweptAt? = some swept → swept ≤ expiry := by
      rw [sweptAt?, early_of_sweep _ hturn]
      rintro swept ⟨⟩
      exact halive hturn
    rw [early_of_sweep _ hturn]
    rcases hfrom with ⟨rfl, rfl⟩ | hold
    · exact ⟨use, List.mem_cons_self, ⟨rfl, rfl⟩, hswept⟩
    · have hmaker : ∃ maker ∈ log.recorded, maker.Made pair expiry := by
        rcases hlog.made pair expiry hold with ⟨maker, hmaker, hmade⟩ | ⟨maker, hmaker, hmade, _⟩
        · exact ⟨maker, mem_recorded.2 (Or.inl hmaker), hmade⟩
        · exact ⟨maker, mem_recorded.2 (Or.inr hmaker), hmade⟩
      obtain ⟨maker, hmaker, hmade⟩ := hmaker
      exact ⟨maker, List.mem_cons_of_mem use hmaker, hmade, hswept⟩
  · simp only [sweptAt?, late_of_no_sweep _ hturn, early_of_no_sweep _ hturn]
    rcases hfrom with ⟨rfl, rfl⟩ | hold
    · exact Or.inl ⟨use, List.mem_cons_self, rfl, rfl⟩
    · rcases hlog.made pair expiry hold with ⟨maker, hmaker, hmade⟩ | hearly
      · exact Or.inl ⟨maker, List.mem_cons_of_mem use hmaker, hmade⟩
      · exact Or.inr hearly

theorem CacheLog.run_tracked (uses : List NonceUse) : (CacheLog.run uses).Tracked := by
  induction uses using List.reverseRecOn with
  | nil => exact ⟨rfl, fun pair expiry hentry => by cases hentry⟩
  | append_singleton uses use ih =>
      rw [run, List.foldl_append]
      exact ih.step use

theorem CacheLog.length_late_lt (log : CacheLog) : log.late.length < sweepEvery := by
  have hmod : log.recorded.length % sweepEvery < sweepEvery := Nat.mod_lt _ (by decide)
  rw [late, List.length_take]
  omega

/-- The late records are too few to make up the number for a sweep, whatever else is in the cache. -/
theorem CacheLog.count_le {log : CacheLog} {others : Finset (String × String)}
    (hentries : ∀ pair expiry, log.cache.seen.get? pair = some expiry →
      (∃ use ∈ log.late, use.Made pair expiry) ∨ pair ∈ others) :
    log.cache.count ≤ others.card + (sweepEvery - 1) := by
  have hkeys : ∀ pair expiry, log.cache.seen.get? pair = some expiry →
      pair ∈ others ∪ (log.late.map NonceUse.pair).toFinset := by
    intro pair expiry hentry
    rw [Finset.mem_union, List.mem_toFinset]
    rcases hentries pair expiry hentry with ⟨use, hlate, hpair, _⟩ | hother
    · exact Or.inr (hpair ▸ List.mem_map_of_mem hlate)
    · exact Or.inl hother
  have hlate : (log.late.map NonceUse.pair).toFinset.card ≤ log.late.length := by
    simpa using List.toFinset_card_le (log.late.map NonceUse.pair)
  have hfew := log.length_late_lt
  calc log.cache.count
      ≤ (others ∪ (log.late.map NonceUse.pair).toFinset).card := Table.size_le_card hkeys
    _ ≤ others.card + (log.late.map NonceUse.pair).toFinset.card := Finset.card_union_le _ _
    _ ≤ others.card + (sweepEvery - 1) := by omega

theorem CacheLog.mem_lasting {log : CacheLog} {use : NonceUse} {pair : String × String}
    {expiry time : Int} (hearly : use ∈ log.early) (hmade : use.Made pair expiry)
    (hlasts : time ≤ expiry) : pair ∈ log.lasting time := by
  obtain ⟨rfl, rfl⟩ := hmade
  have hkept : use ∈ log.recorded.filter (time ≤ ·.expiresAt) :=
    List.mem_filter.2 ⟨mem_recorded.2 (Or.inr hearly), decide_eq_true hlasts⟩
  exact List.mem_toFinset.2 (List.mem_map_of_mem hkept)

theorem CacheLog.early_eq_nil {log : CacheLog} (hnone : log.sweptAt? = none) : log.early = [] := by
  rwa [sweptAt?, Option.map_eq_none_iff, List.head?_eq_none_iff] at hnone

/-- What the cache holds is bounded by what was recorded to last, and a constant. -/
structure CacheLog.Bounded (log : CacheLog) : Prop where
  /-- A record sweeps, at its own time, exactly if it makes up the number. -/
  sweeps : ∀ use, log.cache.isFresh use.agentId use.nonce use.now = true →
    (log.step use).cache.seen =
      if sweepEvery ∣ log.recorded.length + 1 then
        (log.cache.seen.insert use.pair use.expiresAt).filter fun _ expiry => use.now ≤ expiry
      else log.cache.seen.insert use.pair use.expiresAt
  unswept : log.sweptAt? = none → log.cache.count ≤ sweepEvery - 1
  swept : ∀ swept, log.sweptAt? = some swept →
    log.cache.count ≤ (log.lasting swept).card + (sweepEvery - 1)
  /-- An entry that the last sweep would have taken is of a later record. -/
  expired : ∀ swept, log.sweptAt? = some swept → ∀ pair expiry,
    log.cache.seen.get? pair = some expiry → expiry < swept → ∃ use ∈ log.late, use.Made pair expiry

/-- Whatever nonces come in, at whatever times and for however long, the cache stays bounded. -/
theorem cache_stays_bounded (uses : List NonceUse) : (CacheLog.run uses).Bounded := by
  have hlog := CacheLog.run_tracked uses
  generalize CacheLog.run uses = log at hlog
  refine ⟨?sweeps, ?unswept, ?swept, ?expired⟩
  case sweeps =>
    intro use hfree
    rcases log.step_cases use with ⟨hused, _⟩ | ⟨_, hrecord⟩
    · rw [hfree] at hused
      cases hused
    · simp only [hrecord, NonceCache.record, hlog.counted, Nat.dvd_iff_mod_eq_zero]
      split <;> rfl
  case unswept =>
    intro hnone
    have hcount : log.cache.count ≤ (∅ : Finset (String × String)).card + (sweepEvery - 1) := by
      apply log.count_le
      intro pair expiry hentry
      rcases hlog.made pair expiry hentry with hlate | ⟨use, hearly, _⟩
      · exact Or.inl hlate
      · rw [CacheLog.early_eq_nil hnone] at hearly
        cases hearly
    rwa [Finset.card_empty, Nat.zero_add] at hcount
  case swept =>
    intro swept hswept
    apply log.count_le
    intro pair expiry hentry
    rcases hlog.made pair expiry hentry with hlate | ⟨use, hearly, hmade, halive⟩
    · exact Or.inl hlate
    · exact Or.inr (CacheLog.mem_lasting hearly hmade (halive swept hswept))
  case expired =>
    intro swept hswept pair expiry hentry hpast
    rcases hlog.made pair expiry hentry with hlate | ⟨use, _, _, halive⟩
    · exact hlate
    · have hlasts := halive swept hswept
      omega

end Muster.Store
