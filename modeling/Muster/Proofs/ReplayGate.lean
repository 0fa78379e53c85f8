import Mathlib.Data.List.Induction
import Muster.Auth.Authenticator
import Muster.Proofs.ExactSeconds
import Muster.Proofs.GenuineRequest
/-!
Whole runs of the authenticator. A cache entry may be dropped, swept out or overwritten at any time
after its expiry, and none of that shows: whether a nonce is free depends only on what was accepted
before.
-/
namespace Muster.Store

open Time

theorem NonceCache.isFresh_empty (agentId nonce : String) (now : Int) :
    NonceCache.empty.isFresh agentId nonce now = true := rfl

/-- Sweeping at one time changes nothing for that time and all later ones. -/
theorem NonceCache.isFresh_evictExpired (cache : NonceCache) (agentId nonce : String)
    {swept now : Int} (hle : swept ≤ now) :
    (cache.evictExpired swept).isFresh agentId nonce now = cache.isFresh agentId nonce now := by
  simp only [isFresh, evictExpired, Table.get?_filter]
  cases hentry : cache.seen.get? (agentId, nonce) with
  | none => rfl
  | some expiry =>
      by_cases hlive : swept ≤ expiry
      · simp [Option.filter, hlive]
      · have hexpired : expiry < now := by omega
        simp [Option.filter, hlive, hexpired]

/-- A record decides about its own nonce and leaves all others as they were, whether or not it was
the turn to sweep. -/
theorem NonceCache.isFresh_record (cache : NonceCache) (agentId nonce : String)
    (expiresAt : Int) (otherId otherNonce : String) {recorded now : Int}
    (hle : recorded ≤ now) :
    (cache.record agentId nonce expiresAt recorded).isFresh otherId otherNonce now =
      if (otherId, otherNonce) = (agentId, nonce) then decide (expiresAt < now)
      else cache.isFresh otherId otherNonce now := by
  let inserted : NonceCache :=
    ⟨cache.seen.insert (agentId, nonce) expiresAt, cache.inserts + 1⟩
  have hinserted : inserted.isFresh otherId otherNonce now =
      if (otherId, otherNonce) = (agentId, nonce) then decide (expiresAt < now)
      else cache.isFresh otherId otherNonce now := by
    simp only [inserted, isFresh, Table.get?_insert]
    by_cases hsame : (otherId, otherNonce) = (agentId, nonce) <;> simp [hsame]
  rw [← hinserted]
  simp only [record]
  split
  · exact inserted.isFresh_evictExpired otherId otherNonce hle
  · rfl

end Muster.Store

namespace Muster.Auth

open Store Text Time

/-- A request is let in and its nonce recorded, or refused without any trace. -/
theorem authenticateAt_cases (agents : AgentStore) (window : Int) (signed : SignedHeaders)
    (now : Int) (nonces : NonceCache) :
    ((signed.Genuine agents ∧ distance64 now signed.timestamp ≤ window ∧
        nonces.isFresh signed.agentId signed.nonce now = true) ∧
      authenticateAt AgentStore.repository window signed now agents nonces =
        (.ok (), agents, nonces.record signed.agentId signed.nonce
          (shift64 signed.timestamp window) now)) ∨
    (¬ (signed.Genuine agents ∧ distance64 now signed.timestamp ≤ window ∧
        nonces.isFresh signed.agentId signed.nonce now = true) ∧
      ∃ error, authenticateAt AgentStore.repository window signed now agents nonces =
        (.error error, agents, nonces)) := by
  have hgenuine : signed.Genuine agents ↔ ∃ key, agents.publicKeyOf signed.agentId = .ok key ∧
      Rsa.verifiesUnder key (toUtf8 signed.message) signed.signature = true := by
    simp only [publicKeyOf_eq_ok_iff, SignedHeaders.Genuine]
    constructor
    · rintro ⟨record, hrecord, hkey, hverifies⟩
      exact ⟨record.publicKey, ⟨record, hrecord, hkey, rfl⟩, hverifies⟩
    · rintro ⟨_, ⟨record, hrecord, hkey, rfl⟩, hverifies⟩
      exact ⟨record, hrecord, hkey, hverifies⟩
  rw [hgenuine]
  simp only [authenticateAt, AgentStore.repository]
  cases hkey : agents.publicKeyOf signed.agentId with
  | error error => exact Or.inr ⟨by simp, .unknownAgent, rfl⟩
  | ok key =>
      cases hverifies :
          Rsa.verifiesUnder key (toUtf8 signed.message) signed.signature with
      | false =>
          refine Or.inr ⟨by simp [hverifies], .invalidSignature, ?_⟩
          simp [authenticateUnder, hverifies]
      | true =>
          by_cases hage : window < distance64 now signed.timestamp
          · refine Or.inr ⟨?_, .expired, ?_⟩
            · rintro ⟨_, hfresh, _⟩
              omega
            · simp [authenticateUnder, hverifies, hage]
          · have hwithin : distance64 now signed.timestamp ≤ window := by omega
            cases hfree : nonces.isFresh signed.agentId signed.nonce now with
            | false =>
                refine Or.inr ⟨by simp, .replayed, ?_⟩
                simp [authenticateUnder, hverifies, hage, NonceCache.checkAndInsert, hfree]
            | true =>
                refine Or.inl ⟨⟨⟨key, rfl, hverifies⟩, hwithin, rfl⟩, ?_⟩
                simp [authenticateUnder, hverifies, hage, NonceCache.checkAndInsert, hfree]

/-- What happens at the gate: a signed request comes in, expired nonces are swept out, or the store
of agents changes in some way. -/
inductive GateEvent
  | request (signed : SignedHeaders) (now : Int)
  | sweep (now : Int)
  | agentsChange (agents : AgentStore)

def GateEvent.clock? : GateEvent → Option Int
  | .request _ now | .sweep now => some now
  | .agentsChange _ => none

/-- The gate and all requests that it has let in, the last one first. -/
structure Gate where
  agents : AgentStore
  nonces : NonceCache
  accepted : List SignedHeaders

def Gate.opened (agents : AgentStore) : Gate :=
  ⟨agents, NonceCache.empty, []⟩

def Gate.answer (gate : Gate) (window : Int) (signed : SignedHeaders) (now : Int) :
    Except AuthError Unit :=
  (authenticateAt AgentStore.repository window signed now gate.agents gate.nonces).1

def Gate.step (window : Int) (gate : Gate) : GateEvent → Gate
  | .request signed now =>
      match authenticateAt AgentStore.repository window signed now gate.agents gate.nonces with
      | (.ok (), agents, nonces) => ⟨agents, nonces, signed :: gate.accepted⟩
      | (.error _, agents, nonces) => ⟨agents, nonces, gate.accepted⟩
  | .sweep now => { gate with nonces := gate.nonces.evictExpired now }
  | .agentsChange agents => { gate with agents := agents }

def Gate.run (window : Int) (agents : AgentStore) (events : List GateEvent) : Gate :=
  events.foldl (Gate.step window) (Gate.opened agents)

theorem Gate.run_append (window : Int) (agents : AgentStore) (events : List GateEvent)
    (event : GateEvent) :
    Gate.run window agents (events ++ [event]) =
      (Gate.run window agents events).step window event := by
  simp [Gate.run]

/-- From some time on, a nonce is free exactly when no accepted request holds it any more. Sweeps
and overwritten entries are nowhere in this, so that they cannot matter. -/
def Gate.Remembers (gate : Gate) (window since : Int) : Prop :=
  ∀ agentId nonce now, since ≤ now → InRange64 now →
    (gate.nonces.isFresh agentId nonce now = true ↔
      ∀ earlier ∈ gate.accepted, earlier.agentId = agentId → earlier.nonce = nonce →
        earlier.timestamp + window < now)

theorem Gate.remembers_opened (agents : AgentStore) (window since : Int) :
    (Gate.opened agents).Remembers window since := by
  intro agentId nonce now _ _
  simp [Gate.opened, NonceCache.isFresh_empty]

theorem Gate.Remembers.mono {gate : Gate} {window since later : Int}
    (hgate : gate.Remembers window since) (hle : since ≤ later) :
    gate.Remembers window later :=
  fun agentId nonce now hnow hrange => hgate agentId nonce now (Int.le_trans hle hnow) hrange

/-- A request that is let in takes its nonce until the end of its own window. An older entry under
the same nonce has run out by then, so that overwriting it loses nothing. -/
theorem Gate.Remembers.accept {gate : Gate} {window now : Int} {signed : SignedHeaders}
    (hgate : gate.Remembers window now) (hnow : InRange64 now)
    (hage : |now - signed.timestamp| ≤ window)
    (hfree : gate.nonces.isFresh signed.agentId signed.nonce now = true) :
    Gate.Remembers ⟨gate.agents, gate.nonces.record signed.agentId signed.nonce
      (shift64 signed.timestamp window) now, signed :: gate.accepted⟩ window now := by
  intro agentId nonce time htime hrange
  have hbefore := (hgate _ _ now (Int.le_refl now) hnow).1 hfree
  have hsum : leastSecond64 ≤ signed.timestamp + window := by
    have hlow := hnow.1
    rw [abs_le] at hage
    omega
  have hexpiry := le_shift64_iff hrange hsum
  rw [NonceCache.isFresh_record _ _ _ _ _ _ htime]
  by_cases hsame : (agentId, nonce) = (signed.agentId, signed.nonce)
  · obtain ⟨rfl, rfl⟩ := Prod.mk.inj hsame
    rw [List.forall_mem_cons, if_pos rfl, decide_eq_true_eq]
    constructor
    · intro hpast
      refine ⟨fun _ _ => by omega, ?_⟩
      intro earlier hearlier hid hnonce
      have hold := hbefore earlier hearlier hid hnonce
      omega
    · intro hall
      have hpast := hall.1 rfl rfl
      omega
  · rw [List.forall_mem_cons, if_neg hsame, hgate agentId nonce time htime hrange]
    constructor
    · intro hall
      refine ⟨?_, hall⟩
      intro hid hnonce
      exact absurd (by rw [hid, hnonce]) hsame
    · exact fun hall => hall.2

theorem Gate.Remembers.step {gate : Gate} {window since : Int} {event : GateEvent}
    (hpos : 0 ≤ window) (hwindow : window < greatestSecond64)
    (hgate : gate.Remembers window since)
    (hclock : ∀ now, event.clock? = some now → now = since ∧ InRange64 now) :
    (gate.step window event).Remembers window since := by
  cases event with
  | request signed now =>
      obtain ⟨rfl, hnow⟩ := hclock now rfl
      rcases authenticateAt_cases gate.agents window signed now gate.nonces with
        ⟨⟨_, hage, hfree⟩, hresult⟩ | ⟨_, error, hresult⟩
      · rw [distance64_le_iff hpos hwindow] at hage
        simpa only [Gate.step, hresult] using hgate.accept hnow hage hfree
      · simpa only [Gate.step, hresult] using hgate
  | sweep now =>
      obtain ⟨rfl, _⟩ := hclock now rfl
      intro agentId nonce time htime hrange
      simp only [Gate.step, NonceCache.isFresh_evictExpired _ _ _ htime]
      exact hgate agentId nonce time htime hrange
  | agentsChange agents => exact hgate

/-- The clock values of some events, in their order. -/
def clockValues (events : List GateEvent) : List Int :=
  events.filterMap GateEvent.clock?

/-- The clock never goes back, and every value fits in 64 signed bits. -/
def SteadyClock (events : List GateEvent) : Prop :=
  (clockValues events).Pairwise (· ≤ ·) ∧ ∀ now ∈ clockValues events, InRange64 now

instance (events : List GateEvent) : Decidable (SteadyClock events) :=
  inferInstanceAs (Decidable (_ ∧ _))

theorem SteadyClock.of_append {events later : List GateEvent}
    (hclock : SteadyClock (events ++ later)) : SteadyClock events := by
  simp only [SteadyClock, clockValues, List.filterMap_append, List.pairwise_append,
    List.mem_append] at hclock ⊢
  exact ⟨hclock.1.1, fun now hnow => hclock.2 now (Or.inl hnow)⟩

/-- The last reading of the clock is in range, and no earlier one is later. -/
theorem SteadyClock.last {events : List GateEvent} {event : GateEvent} {now : Int}
    (hclock : SteadyClock (events ++ [event])) (hevent : event.clock? = some now) :
    InRange64 now ∧ ∀ earlier ∈ clockValues events, earlier ≤ now := by
  simp only [SteadyClock, clockValues, List.filterMap_append, List.filterMap_cons, hevent,
    List.filterMap_nil, List.pairwise_append, List.mem_append, List.mem_singleton] at hclock
  exact ⟨hclock.2 now (Or.inr rfl), fun earlier hearlier => hclock.1.2.2 earlier hearlier now rfl⟩

/-- Induction over the events from the last one back: what the cache remembers since the latest
reading of the clock is what the gate has let in. -/
theorem Gate.run_remembers {window : Int} (hpos : 0 ≤ window)
    (hwindow : window < greatestSecond64) (agents : AgentStore) {events : List GateEvent}
    (hclock : SteadyClock events) {since : Int}
    (hsince : ∀ now ∈ clockValues events, now ≤ since) :
    (Gate.run window agents events).Remembers window since := by
  induction events using List.reverseRecOn generalizing since with
  | nil => exact Gate.remembers_opened agents window since
  | append_singleton events event ih =>
      rw [Gate.run_append]
      cases hevent : event.clock? with
      | none =>
          refine (ih hclock.of_append ?_).step hpos hwindow (by simp [hevent])
          intro now hnow
          exact hsince now (by simp [clockValues] at hnow ⊢; exact Or.inl hnow)
      | some now =>
          obtain ⟨hrange, hlast⟩ := hclock.last hevent
          have hclocked : ∀ time, event.clock? = some time → time = now ∧ InRange64 time := by
            intro time htime
            rw [hevent] at htime
            cases htime
            exact ⟨rfl, hrange⟩
          have hstep := (ih hclock.of_append hlast).step hpos hwindow hclocked
          exact hstep.mono (hsince now (by simp [clockValues, hevent]))

/-- The decision about one request, given what the cache remembers. -/
theorem Gate.Remembers.answer_eq_ok_iff {gate : Gate} {window now : Int}
    (hpos : 0 ≤ window) (hwindow : window < greatestSecond64)
    (hgate : gate.Remembers window now) (hnow : InRange64 now) (signed : SignedHeaders) :
    gate.answer window signed now = .ok () ↔
      signed.Genuine gate.agents ∧ |now - signed.timestamp| ≤ window ∧
        ∀ earlier ∈ gate.accepted, earlier.agentId = signed.agentId →
          earlier.nonce = signed.nonce → earlier.timestamp + window < now := by
  rw [← hgate _ _ now (Int.le_refl now) hnow, ← distance64_le_iff hpos hwindow]
  rcases authenticateAt_cases gate.agents window signed now gate.nonces with
    ⟨hall, hresult⟩ | ⟨hnot, error, hresult⟩
  · simp [Gate.answer, hresult, hall]
  · simp only [Gate.answer, hresult, reduceCtorEq, false_iff]
    exact hnot

theorem Gate.accepted_of_ok {gate : Gate} {window : Int} {signed : SignedHeaders} {now : Int}
    (hok : gate.answer window signed now = .ok ()) :
    (gate.step window (.request signed now)).accepted = signed :: gate.accepted := by
  rcases authenticateAt_cases gate.agents window signed now gate.nonces with
    ⟨_, hresult⟩ | ⟨_, error, hresult⟩
  · simp [Gate.step, hresult]
  · simp [Gate.answer, hresult] at hok

theorem Gate.accepted_step (gate : Gate) (window : Int) (signed : SignedHeaders) (now : Int) :
    (gate.answer window signed now = .ok () ∧
      (gate.step window (.request signed now)).accepted = signed :: gate.accepted) ∨
    (gate.step window (.request signed now)).accepted = gate.accepted := by
  rcases authenticateAt_cases gate.agents window signed now gate.nonces with
    ⟨_, hresult⟩ | ⟨_, error, hresult⟩
  · have hok : gate.answer window signed now = .ok () := by simp [Gate.answer, hresult]
    exact Or.inl ⟨hok, accepted_of_ok hok⟩
  · exact Or.inr (by simp [Gate.step, hresult])

/-- What tells one signed request from another. The signature does not: it is salted, so that one
message has many. -/
def SignedHeaders.identity (signed : SignedHeaders) : String × Int × String :=
  (signed.agentId, signed.timestamp, signed.nonce)

/-- No request is let in twice. A repetition within the window finds its nonce taken, and behind the
window it is too old. -/
theorem Gate.run_accepted_nodup {window : Int} (hpos : 0 ≤ window)
    (hwindow : window < greatestSecond64) (agents : AgentStore) {events : List GateEvent}
    (hclock : SteadyClock events) :
    ((Gate.run window agents events).accepted.map SignedHeaders.identity).Nodup := by
  induction events using List.reverseRecOn with
  | nil => simp [Gate.run, Gate.opened]
  | append_singleton events event ih =>
      have hbefore := ih hclock.of_append
      rw [Gate.run_append]
      cases event with
      | sweep now => exact hbefore
      | agentsChange agents => exact hbefore
      | request signed now =>
          obtain ⟨hnow, hlast⟩ := hclock.last rfl
          have hremembers := Gate.run_remembers hpos hwindow agents hclock.of_append hlast
          rcases (Gate.run window agents events).accepted_step window signed now with
            ⟨hok, hstep⟩ | hstep
          · rw [hstep, List.map_cons, List.nodup_cons]
            refine ⟨?_, hbefore⟩
            intro hagain
            obtain ⟨earlier, hearlier, hsame⟩ := List.mem_map.1 hagain
            simp only [SignedHeaders.identity, Prod.mk.injEq] at hsame
            obtain ⟨hid, htime, hnonce⟩ := hsame
            obtain ⟨_, hage, hfree⟩ :=
              (hremembers.answer_eq_ok_iff hpos hwindow hnow signed).1 hok
            have hpast := hfree earlier hearlier hid hnonce
            rw [abs_le] at hage
            omega
          · rw [hstep]
            exact hbefore

theorem windowOf_eq {seconds : Nat} (hseconds : (seconds : Int) < greatestSecond64) :
    windowOf seconds = seconds := by
  simp only [windowOf]
  omega

/-- A request is let in exactly when its signature is genuine, its age is within the window and no
accepted request with its nonce has a window that reaches so far. All of this is meant in exact
numbers and at any point of any run, and so no signed request is ever let in twice. -/
theorem gate_run_exact_and_replay_free {seconds : Nat}
    (hseconds : (seconds : Int) < greatestSecond64) (agents : AgentStore)
    {events : List GateEvent} (hclock : SteadyClock events) :
    (∀ before signed now after, events = before ++ .request signed now :: after →
      ((Gate.run (windowOf seconds) agents before).answer (windowOf seconds) signed now = .ok () ↔
        signed.Genuine (Gate.run (windowOf seconds) agents before).agents ∧
        |now - signed.timestamp| ≤ seconds ∧
        ¬ ∃ earlier ∈ (Gate.run (windowOf seconds) agents before).accepted,
          earlier.agentId = signed.agentId ∧ earlier.nonce = signed.nonce ∧
            now ≤ earlier.timestamp + seconds)) ∧
    ((Gate.run (windowOf seconds) agents events).accepted.map SignedHeaders.identity).Nodup := by
  have hpos : (0 : Int) ≤ seconds := by omega
  rw [windowOf_eq hseconds]
  refine ⟨?_, Gate.run_accepted_nodup hpos hseconds agents hclock⟩
  rintro before signed now after rfl
  rw [List.append_cons] at hclock
  obtain ⟨hnow, hlast⟩ := hclock.of_append.last rfl
  have hremembers :=
    Gate.run_remembers hpos hseconds agents hclock.of_append.of_append hlast
  rw [hremembers.answer_eq_ok_iff hpos hseconds hnow signed]
  simp only [not_exists, not_and, Int.not_le]

/-- A genuine request in the last second of its window, a sweep in that second, and the request again:
it is let in the first time, and not the second time. -/
theorem gate_run_repetition_behind_sweep :
    let signed := Agent.keyHolderHeaders 1700000000
    let events : List GateEvent := [.request signed 1700000300, .sweep 1700000300]
    ((300 : Nat) : Int) < greatestSecond64 ∧
    SteadyClock (events ++ [.request signed 1700000300]) ∧
    (Gate.run (windowOf 300) Agent.keyHolderStore []).answer (windowOf 300) signed 1700000300 =
      .ok () ∧
    (Gate.run (windowOf 300) Agent.keyHolderStore events).answer (windowOf 300) signed 1700000300 ≠
      .ok () := by
  intro signed events
  have hseconds : ((300 : Nat) : Int) < greatestSecond64 := by decide
  have hclock : SteadyClock (events ++ [.request signed 1700000300]) := by decide
  obtain ⟨hexact, -⟩ :=
    gate_run_exact_and_replay_free hseconds Agent.keyHolderStore hclock
  have hfirst : (Gate.run (windowOf 300) Agent.keyHolderStore []).answer (windowOf 300) signed
      1700000300 = .ok () := by
    rw [hexact [] signed 1700000300 _ rfl]
    refine ⟨Agent.keyHolderHeaders_genuine 1700000000, by decide, ?_⟩
    rintro ⟨earlier, hearlier, -⟩
    cases hearlier
  have haccepted : ∀ agents signed,
      (Gate.run (windowOf 300) agents []).answer (windowOf 300) signed 1700000300 = .ok () →
      (Gate.run (windowOf 300) agents [.request signed 1700000300, .sweep 1700000300]).accepted =
        [signed] :=
    fun _ _ hok => Gate.accepted_of_ok hok
  refine ⟨hseconds, hclock, hfirst, ?_⟩
  rw [ne_eq, hexact events signed 1700000300 [] rfl, haccepted _ _ hfirst]
  rintro ⟨-, -, hfree⟩
  exact hfree ⟨signed, List.mem_singleton_self signed, rfl, rfl, by decide⟩

end Muster.Auth
