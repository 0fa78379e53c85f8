import Mathlib.Tactic.IntervalCases
import Muster.Proofs.RegistrationDecision
/-!
The times of changes. A registration of a known agent takes a time later than the one that it has
read, and writes it some steps afterwards. The times of an agent move forward as long as nobody else
writes in between; an update that was overtaken can take them back.
-/
namespace Muster.ControlPlane

open Auth Store Text Time

section
variable {admission : Admission} {agentId : String} {now : Instant} {store next : AgentStore}
  {stage after : RegistrationStage}

/-- A registration that has a record ready to be written has just read the record of that agent, and
its time is later. -/
theorem Advance.ready (hstep : Advance admission agentId now store stage after next)
    (hlimit : TimesBelowLimit store) (hbefore : StepInvariant admission agentId store stage)
    {record : AgentRecord} (hready : after = .update record) :
    next = store ∧ ∃ seen, store.findByFingerprint? admission.fingerprint = some seen ∧
      store.get? record.agentId = some seen ∧ seen.updatedAt < record.updatedAt := by
  cases hstep with
  | known stage seen hstage hfound =>
      obtain ⟨⟨id, hseen⟩, -⟩ := (hbefore.indexed.fingerprints.find_iff _ _).1 hfound
      have hrecord := Admission.eq_refreshed_of_pending (Or.inr hready)
      refine ⟨rfl, seen, hfound, ?_, ?_⟩
      · rw [hrecord]
        change store.get? seen.agentId = some seen
        rwa [hbefore.indexed.named id seen hseen]
      · rw [hrecord]
        exact lt_laterThan (Or.inr (hlimit id seen hseen))
  | keyTaken | keyPassed | unknown | noWinner | lost | created | updated | forestalled | gone
  | settled => cases hready

/-- A step leaves the record of an agent as it is, or it is an update of that agent. -/
theorem Advance.kept_or_replaced (hstep : Advance admission agentId now store stage after next)
    (hbefore : StepInvariant admission agentId store stage) {id : String} {seen : AgentRecord}
    (hseen : store.get? id = some seen) :
    next.get? id = some seen ∨
      ∃ record, stage = .update record ∧ record.agentId = id ∧ after = .over (.ok record) := by
  cases hstep with
  | created record next hfingerprint hkey hadded =>
      obtain ⟨read, rfl⟩ := hbefore.knows
      have hother : id ≠ (admission.newRecord agentId read).agentId := by
        rintro rfl
        cases hseen.symm.trans (hbefore.unborn (by simp))
      exact Or.inl (by rw [hadded.get, if_neg hother, hseen])
  | updated record previous next hprevious hown hreplaced =>
      by_cases hid : record.agentId = id
      · exact Or.inr ⟨record, rfl, hid, rfl⟩
      · exact Or.inl (by rw [hreplaced.get, if_neg (Ne.symm hid), hseen])
  | keyTaken | keyPassed | unknown | known | noWinner | lost | forestalled | gone | settled =>
      exact Or.inl hseen

theorem Advance.stores (hstep : Advance admission agentId now store stage after next)
    {record : AgentRecord} (hready : stage = .update record) (hover : after = .over (.ok record)) :
    next.get? record.agentId = some record := by
  cases hstep with
  | updated record previous next hprevious hown hreplaced =>
      cases hready
      rw [hreplaced.get]
      exact if_pos rfl
  | known stage seen hstage hfound => rcases hstage with rfl | rfl <;> cases hready
  | keyTaken | keyPassed | unknown | noWinner | lost | created | settled => cases hready
  | forestalled | gone => cases hover

end

variable {ι : Type} [DecidableEq ι]

/-- A move that replaces the record of an agent: an update that succeeds. -/
structure Race.Replaces (calls : ι → RegisterCall) (race : Race ι) (move : ι × Instant)
    (previous record : AgentRecord) : Prop where
  ready : race.stage move.1 = .update record
  stored : race.agents.get? record.agentId = some previous
  succeeds : (race.step calls move).stage move.1 = .over (.ok record)

/-- A registration has been overtaken: another one has replaced the record of its agent while it had
its own record ready to be written. -/
def Race.Overtaken (tokens : BootstrapTokens) (calls : ι → RegisterCall)
    (schedule : List (ι × Instant)) (i : ι) : Prop :=
  ∃ before move rest ready previous record, schedule = before ++ move :: rest ∧
    (Race.run tokens calls before).stage i = .update ready ∧
    (Race.run tokens calls before).Replaces calls move previous record ∧
    record.agentId = ready.agentId

theorem Race.Overtaken.append {tokens : BootstrapTokens} {calls : ι → RegisterCall}
    {schedule : List (ι × Instant)} {i : ι} (hovertaken : Race.Overtaken tokens calls schedule i)
    (move : ι × Instant) : Race.Overtaken tokens calls (schedule ++ [move]) i := by
  obtain ⟨before, other, rest, ready, previous, record, rfl, hevent⟩ := hovertaken
  exact ⟨before, other, rest ++ [move], ready, previous, record, by simp, hevent⟩

/-- What a registration has read that has a record ready: the record of that agent at some earlier
moment, with an earlier time. -/
def Race.HasRead (tokens : BootstrapTokens) (calls : ι → RegisterCall)
    (schedule : List (ι × Instant)) (i : ι) (record : AgentRecord) : Prop :=
  ∃ before now rest seen, schedule = before ++ (i, now) :: rest ∧
    (Race.run tokens calls before).agents.findByFingerprint? (calls i).admission.fingerprint =
      some seen ∧
    (Race.run tokens calls before).agents.get? record.agentId = some seen ∧
    seen.updatedAt < record.updatedAt

theorem Race.HasRead.append {tokens : BootstrapTokens} {calls : ι → RegisterCall}
    {schedule : List (ι × Instant)} {i : ι} {record : AgentRecord}
    (hread : Race.HasRead tokens calls schedule i record) (move : ι × Instant) :
    Race.HasRead tokens calls (schedule ++ [move]) i record := by
  obtain ⟨before, now, rest, seen, rfl, hevent⟩ := hread
  exact ⟨before, now, rest ++ [move], seen, by simp, hevent⟩

/-- A registration that has a record ready has read the one that is still there, or it has been
overtaken. -/
theorem Race.ready_cases {tokens : BootstrapTokens} {calls : ι → RegisterCall}
    (hfresh : Function.Injective fun i => (calls i).agentId) {schedule : List (ι × Instant)}
    (hlimit : Race.BelowLimit tokens calls schedule) {i : ι} {record : AgentRecord}
    (hready : (Race.run tokens calls schedule).stage i = .update record) :
    Race.HasRead tokens calls schedule i record ∧
      (Race.Overtaken tokens calls schedule i ∨
        ∃ seen, (Race.run tokens calls schedule).agents.get? record.agentId = some seen ∧
          seen.updatedAt < record.updatedAt) := by
  induction schedule using List.reverseRecOn with
  | nil =>
      rw [Race.run, List.foldl_nil] at hready
      rcases Race.start_stage_cases tokens calls i with ⟨hstage, -⟩ | ⟨error, hstage, -⟩
      · cases hready.symm.trans hstage
      · cases hready.symm.trans hstage
  | append_singleton schedule move ih =>
      obtain ⟨mover, now⟩ := move
      have hrace := Race.run_invariant tokens hfresh schedule
      obtain ⟨after, next, hstep, hadvance⟩ := hrace.advance mover now
      have hstore : (Race.run tokens calls (schedule ++ [(mover, now)])).agents = next := by
        rw [Race.run_append, hstep]
      rw [Race.run_append, hstep] at hready
      by_cases hmover : i = mover
      · subst hmover
        have hbelow := hlimit schedule (List.prefix_append _ _)
        obtain ⟨rfl, seen, hfound, hseen, hlater⟩ :=
          hadvance.ready hbelow (hrace.stepInvariant i) (by simpa using hready)
        rw [hstore]
        exact ⟨⟨schedule, now, [], seen, rfl, hfound, hseen, hlater⟩, Or.inr ⟨seen, hseen, hlater⟩⟩
      · have hwaiting : (Race.run tokens calls schedule).stage i = .update record := by
          simpa [hmover] using hready
        obtain ⟨hread, hcases⟩ := ih hlimit.of_append hwaiting
        refine ⟨hread.append _, ?_⟩
        rcases hcases with hovertaken | ⟨seen, hseen, hlater⟩
        · exact Or.inl (hovertaken.append _)
        · rcases hadvance.kept_or_replaced (hrace.stepInvariant mover) hseen with hkept |
            ⟨other, hpending, hsame, hover⟩
          · exact Or.inr ⟨seen, hstore ▸ hkept, hlater⟩
          · refine Or.inl
              ⟨schedule, (mover, now), [], record, seen, other, rfl, hwaiting, ?_, hsame⟩
            exact ⟨hpending, hsame ▸ hseen, by rw [hstep, hover]; simp⟩

/-- What an update that succeeds does to the time of the record that it replaces. -/
structure Race.Dates (tokens : BootstrapTokens) (calls : ι → RegisterCall)
    (schedule : List (ι × Instant)) (move : ι × Instant) (previous record : AgentRecord) :
    Prop where
  /-- The record is what is stored behind the move. -/
  stored : (Race.run tokens calls (schedule ++ [move])).agents.get? record.agentId = some record
  /-- Its time is later than the one that the registration has read. -/
  read : Race.HasRead tokens calls schedule move.1 record
  /-- It is later than the time that it replaces, unless the registration has been overtaken. -/
  advances : ¬ Race.Overtaken tokens calls schedule move.1 → previous.updatedAt < record.updatedAt

/-- The time of an agent moves forward with every update that was not overtaken, in whatever order
registrations make their calls to the store, and whatever their clocks show. -/
theorem updates_advance_unless_overtaken {tokens : BootstrapTokens} {calls : ι → RegisterCall}
    (hfresh : Function.Injective fun i => (calls i).agentId) {schedule : List (ι × Instant)}
    (hlimit : Race.BelowLimit tokens calls schedule) {move : ι × Instant}
    {previous record : AgentRecord}
    (hreplaces : (Race.run tokens calls schedule).Replaces calls move previous record) :
    Race.Dates tokens calls schedule move previous record := by
  obtain ⟨hread, hcases⟩ := Race.ready_cases hfresh hlimit hreplaces.ready
  refine ⟨?_, hread, ?_⟩
  · have hrace := Race.run_invariant tokens hfresh schedule
    obtain ⟨after, next, hstep, hadvance⟩ := hrace.advance move.1 move.2
    have hsucceeds := hreplaces.succeeds
    rw [show move = (move.1, move.2) from rfl, hstep] at hsucceeds
    rw [Race.run_append, show move = (move.1, move.2) from rfl, hstep]
    exact hadvance.stores hreplaces.ready (by simpa using hsucceeds)
  · intro hfirst
    obtain ⟨seen, hseen, hlater⟩ := hcases.resolve_left hfirst
    cases hreplaces.stored.symm.trans hseen
    exact hlater

section SameHost

theorem RegisterCall.firstStage_of_wellFormed {tokens : BootstrapTokens} {call : RegisterCall}
    (hrequest : WellFormed call.request)
    (htoken : tokens.verify call.request.tokenId call.request.tokenKey = true) :
    call.firstStage tokens = .checkKey := by
  have hadmitted := (ofRequest_eq_ok_iff tokens call.request _).2 ⟨hrequest, htoken, rfl⟩
  rw [firstStage, hadmitted]

def sameHostRequest : RegistrationRequest :=
  ⟨"host-1", "tok", "secret", "MBowDQYJKoZIhvcNAQEBBQADCQAwBgIBBQIBAw==", "rsa", []⟩

/-- Registrations of one host, each with an id of its own for a new agent. -/
def sameHostCalls (i : Fin 3) : RegisterCall :=
  ⟨sameHostRequest,
    if i = 0 then "agent-0" else if i = 1 then "agent-1" else "agent-2"⟩

def sameHostTokens : BootstrapTokens :=
  BootstrapTokens.ofTokens [⟨"tok", "secret"⟩]

theorem sameHostCalls_fresh : Function.Injective fun i => (sameHostCalls i).agentId := by
  intro i j
  revert i j
  decide

/-- The requests are let in. This is said here once, so that no run evaluates the digests of
tokens. -/
theorem run_sameHost (schedule : List (Fin 3 × Instant)) :
    Race.run sameHostTokens sameHostCalls schedule =
      schedule.foldl (Race.step sameHostCalls) ⟨AgentStore.empty, fun _ => .checkKey⟩ := by
  have hrequest : WellFormed sameHostRequest :=
    (validateRegistration_eq_ok_iff _).1 (by decide +kernel)
  have hfirst : ∀ i, (sameHostCalls i).firstStage sameHostTokens = .checkKey := fun i =>
    RegisterCall.firstStage_of_wellFormed hrequest (BootstrapTokens.verify_ofTokens [] _)
  rw [Race.run, Race.start, funext hfirst]

/-- The record of the host, changed at some time. -/
def sameHostRecord (updatedAt : Instant) : AgentRecord :=
  { (sameHostCalls 0).admission.newRecord "agent-0" .epoch with updatedAt := updatedAt }

def oneSecond : Instant :=
  ⟨1, 0, by decide⟩

def twoSeconds : Instant :=
  ⟨2, 0, by decide⟩

/-- The first registration creates the agent, and a second later another one has read its record. -/
def sameHostReading : List (Fin 3 × Instant) :=
  [(0, .epoch), (0, .epoch), (0, .epoch), (1, oneSecond), (1, oneSecond)]

/-- The third registration comes a second later still, and has written before the second one
does. -/
def sameHostOvertaking : List (Fin 3 × Instant) :=
  sameHostReading ++ [(2, twoSeconds), (2, twoSeconds), (2, twoSeconds)]

/-- Nobody else comes between the reading and the update. -/
theorem updates_advance_unless_overtaken_alone :
    Race.BelowLimit sameHostTokens sameHostCalls sameHostReading ∧
      (Race.run sameHostTokens sameHostCalls sameHostReading).Replaces sameHostCalls
        (1, oneSecond) (sameHostRecord .epoch) (sameHostRecord oneSecond) ∧
      ¬ Race.Overtaken sameHostTokens sameHostCalls sameHostReading 1 ∧
      (sameHostRecord .epoch).updatedAt < (sameHostRecord oneSecond).updatedAt := by
  have hlimit : Race.BelowLimit sameHostTokens sameHostCalls sameHostReading :=
    Race.belowLimit_of_clock sameHostCalls_fresh (by decide)
  have hreplaces : (Race.run sameHostTokens sameHostCalls sameHostReading).Replaces sameHostCalls
      (1, oneSecond) (sameHostRecord .epoch) (sameHostRecord oneSecond) := by
    rw [run_sameHost]
    exact ⟨rfl, rfl, rfl⟩
  have hfirst : ¬ Race.Overtaken sameHostTokens sameHostCalls sameHostReading 1 := by
    rintro ⟨before, move, rest, ready, -, -, hsplit, hready, -⟩
    have hlength := congrArg List.length hsplit
    rw [List.length_append, List.length_cons] at hlength
    have hbefore : before = sameHostReading.take before.length := by rw [hsplit, List.take_left]
    have hshort : before.length < 5 := by
      change 5 = _ at hlength
      omega
    rw [hbefore, run_sameHost] at hready
    interval_cases before.length <;> cases hready
  exact ⟨hlimit, hreplaces, hfirst,
    (updates_advance_unless_overtaken sameHostCalls_fresh hlimit hreplaces).advances hfirst⟩

/-- An update that was overtaken takes the time back, though the clock has only moved forward. -/
theorem overtaken_update_goes_back :
    let schedule := sameHostOvertaking ++ [(1, twoSeconds)]
    (Function.Injective fun i => (sameHostCalls i).agentId) ∧
      Race.BelowLimit sameHostTokens sameHostCalls schedule ∧
      schedule.Pairwise (fun earlier later => ¬ later.2 < earlier.2) ∧
      (Race.run sameHostTokens sameHostCalls sameHostOvertaking).Replaces sameHostCalls
        (1, twoSeconds) (sameHostRecord twoSeconds) (sameHostRecord oneSecond) ∧
      (Race.run sameHostTokens sameHostCalls schedule).agents.get? "agent-0" =
        some (sameHostRecord oneSecond) ∧
      ¬ (sameHostRecord twoSeconds).updatedAt < (sameHostRecord oneSecond).updatedAt := by
  intro schedule
  refine ⟨sameHostCalls_fresh, Race.belowLimit_of_clock sameHostCalls_fresh (by decide), by decide,
    ?_, ?_, by decide⟩
  · rw [run_sameHost]
    exact ⟨rfl, rfl, rfl⟩
  · rw [run_sameHost]
    rfl

end SameHost

end Muster.ControlPlane
