import Mathlib.Data.List.Induction
import Mathlib.Logic.Function.Basic
import Muster.Proofs.RegistrationSteps
/-!
Any number of registrations over one store, each at its own stage, with their calls to the store in
any order. The invariant is the one of a single registration, held by all of them at once, together
with the knowledge who brought in which agent.
-/
namespace Muster.ControlPlane

open Auth Store Text Time

/-- A registration that is asked for, and the id that a new agent would get. -/
structure RegisterCall where
  request : RegistrationRequest
  agentId : String

/-- What the call works with once it is let in. -/
def RegisterCall.admission (call : RegisterCall) : Admission :=
  admissionOf call.request

/-- The first stage. A registration that is not let in is over before any call to the store.
Irreducible, so that no proof evaluates the checks of a request on its way. -/
@[irreducible] def RegisterCall.firstStage (tokens : BootstrapTokens) (call : RegisterCall) :
    RegistrationStage :=
  match Admission.ofRequest tokens call.request with
  | .error error => .over (.error error)
  | .ok _ => .checkKey

/-- A registration that is let in starts with its first call; another one is over for a reason of its
own, not of the store's. -/
theorem RegisterCall.firstStage_cases (tokens : BootstrapTokens) (call : RegisterCall) :
    (call.firstStage tokens = .checkKey ∧ WellFormed call.request) ∨
    ∃ error, call.firstStage tokens = .over (.error error) ∧
      ∀ refusal, error ≠ .store refusal := by
  simp only [firstStage]
  cases hadmitted : Admission.ofRequest tokens call.request with
  | ok admission => exact Or.inl ⟨rfl, ((ofRequest_eq_ok_iff _ _ _).1 hadmitted).1⟩
  | error error =>
      refine Or.inr ⟨error, rfl, ?_⟩
      rintro refusal rfl
      simp only [Admission.ofRequest] at hadmitted
      split at hadmitted
      · cases hadmitted
      · split at hadmitted <;> cases hadmitted

/-- Registrations under way: the store that they share, and the stage of each. -/
structure Race (ι : Type) where
  agents : AgentStore
  stage : ι → RegistrationStage

variable {ι : Type}

/-- All registrations before their first step, over the empty store. -/
def Race.start (tokens : BootstrapTokens) (calls : ι → RegisterCall) : Race ι :=
  ⟨AgentStore.empty, fun i => (calls i).firstStage tokens⟩

variable [DecidableEq ι]

/-- A move: one registration makes one call to the store, at some reading of the clock. -/
def Race.step (calls : ι → RegisterCall) (race : Race ι) (move : ι × Instant) : Race ι :=
  let (stage, agents) := registrationStep AgentStore.repository (calls move.1).admission
    (calls move.1).agentId move.2 (race.stage move.1) race.agents
  ⟨agents, Function.update race.stage move.1 stage⟩

def Race.run (tokens : BootstrapTokens) (calls : ι → RegisterCall)
    (schedule : List (ι × Instant)) : Race ι :=
  schedule.foldl (Race.step calls) (Race.start tokens calls)

theorem Race.run_append (tokens : BootstrapTokens) (calls : ι → RegisterCall)
    (schedule : List (ι × Instant)) (move : ι × Instant) :
    Race.run tokens calls (schedule ++ [move]) =
      (Race.run tokens calls schedule).step calls move := by
  simp [Race.run]

/-- What holds at every moment of a race. Every agent that is there was brought in by one of the
registrations, and that one is over. -/
structure Race.Invariant (calls : ι → RegisterCall) (race : Race ι) : Prop where
  indexed : race.agents.Indexed
  records : SoundRecords race.agents
  knows : ∀ i, StageSound (calls i).admission (calls i).agentId race.agents (race.stage i)
  unborn : ∀ i, (∀ result, race.stage i ≠ .over result) →
    race.agents.get? (calls i).agentId = none
  keys : ∀ i, (∀ result, race.stage i ≠ .over result) → (calls i).admission.publicKey ≠ ""
  creators : ∀ id, race.agents.get? id ≠ none →
    ∃ i, (calls i).agentId = id ∧ ∃ first, race.stage i = .over (.ok first) ∧ first.agentId = id

omit [DecidableEq ι] in
theorem Race.Invariant.stepInvariant {calls : ι → RegisterCall} {race : Race ι}
    (hrace : race.Invariant calls) (i : ι) :
    StepInvariant (calls i).admission (calls i).agentId race.agents (race.stage i) :=
  ⟨hrace.indexed, hrace.records, hrace.knows i, hrace.unborn i⟩

omit [DecidableEq ι] in
theorem Race.start_stage_cases (tokens : BootstrapTokens) (calls : ι → RegisterCall) (i : ι) :
    ((Race.start tokens calls).stage i = .checkKey ∧ WellFormed (calls i).request) ∨
    ∃ error, (Race.start tokens calls).stage i = .over (.error error) ∧
      ∀ refusal, error ≠ .store refusal :=
  (calls i).firstStage_cases tokens

omit [DecidableEq ι] in
theorem Race.invariant_start (tokens : BootstrapTokens) (calls : ι → RegisterCall) :
    (Race.start tokens calls).Invariant calls := by
  refine ⟨AgentStore.indexed_empty, ?_, ?_, fun _ _ => rfl, ?_, fun id hsome => absurd rfl hsome⟩
  · intro id record hrecord
    cases hrecord
  · intro i
    rcases Race.start_stage_cases tokens calls i with ⟨hstage, _⟩ | ⟨error, hstage, hclient⟩
    · rw [hstage]
      trivial
    · rw [hstage]
      exact hclient
  · intro i hopen
    rcases Race.start_stage_cases tokens calls i with ⟨_, hrequest⟩ | ⟨error, hstage, _⟩
    · exact hrequest.trim_publicKey_ne
    · exact absurd hstage (hopen _)

theorem Race.step_of_over {calls : ι → RegisterCall} {race : Race ι} {mover : ι}
    {result : Except RegistryError AgentRecord} (hover : race.stage mover = .over result)
    (now : Instant) : race.step calls (mover, now) = race := by
  simp only [Race.step, hover, registrationStep, RegistrationStage.call?]
  rw [← hover, Function.update_eq_self]

/-- A move of a registration that is not over yet does one of the things that a step can do. -/
theorem Race.Invariant.advance {calls : ι → RegisterCall} {race : Race ι}
    (hrace : race.Invariant calls) (mover : ι) (now : Instant) :
    ∃ after next, race.step calls (mover, now) = ⟨next, Function.update race.stage mover after⟩ ∧
      Advance (calls mover).admission (calls mover).agentId now race.agents (race.stage mover)
        after next :=
  ⟨_, _, rfl, registrationStep_advance hrace.indexed.keys _ _ _ _⟩

theorem Race.Invariant.step {calls : ι → RegisterCall} {race : Race ι}
    (hfresh : Function.Injective fun i => (calls i).agentId) (hrace : race.Invariant calls)
    (move : ι × Instant) : (race.step calls move).Invariant calls := by
  obtain ⟨mover, now⟩ := move
  by_cases hover : ∃ result, race.stage mover = .over result
  · obtain ⟨result, hover⟩ := hover
    rwa [Race.step_of_over hover]
  · have hopen : ∀ result, race.stage mover ≠ .over result :=
      fun result hstage => hover ⟨result, hstage⟩
    have hbefore := hrace.stepInvariant mover
    obtain ⟨after, next, hstep, hadvance⟩ := hrace.advance mover now
    have hafter := hadvance.invariant (hrace.keys mover hopen) hbefore
    have hkeeps := hadvance.keeps hbefore
    rw [hstep]
    refine ⟨hafter.indexed, hafter.records, ?_, ?_, ?_, ?_⟩
    · intro i
      by_cases hmover : i = mover
      · subst hmover
        simpa using hafter.knows
      · simpa [hmover] using (hrace.knows i).mono hkeeps
    · intro i hstill
      by_cases hmover : i = mover
      · subst hmover
        exact hafter.unborn (by simpa using hstill)
      · -- another registration could only have brought in its own agent
        have hnone := hrace.unborn i (by simpa [hmover] using hstill)
        by_contra hsome
        exact hmover (hfresh (hadvance.newcomer hbefore hnone hsome).1)
    · intro i hstill
      by_cases hmover : i = mover
      · subst hmover
        exact hrace.keys i hopen
      · exact hrace.keys i (by simpa [hmover] using hstill)
    · intro id hsome
      by_cases hnone : race.agents.get? id = none
      · obtain ⟨hid, first, hfirst, howner⟩ := hadvance.newcomer hbefore hnone hsome
        exact ⟨mover, hid.symm, first, by simp [hfirst], howner.trans hid.symm⟩
      · obtain ⟨i, hid, first, hstage, hfirst⟩ := hrace.creators id hnone
        have hmover : i ≠ mover := by
          rintro rfl
          exact hopen _ hstage
        exact ⟨i, hid, first, by simpa [hmover] using hstage, hfirst⟩

theorem Race.run_invariant (tokens : BootstrapTokens) {calls : ι → RegisterCall}
    (hfresh : Function.Injective fun i => (calls i).agentId) (schedule : List (ι × Instant)) :
    (Race.run tokens calls schedule).Invariant calls := by
  induction schedule using List.reverseRecOn with
  | nil => exact Race.invariant_start tokens calls
  | append_singleton schedule move ih =>
      rw [Race.run_append]
      exact ih.step hfresh move

theorem Race.run_keeps (tokens : BootstrapTokens) {calls : ι → RegisterCall}
    (hfresh : Function.Injective fun i => (calls i).agentId)
    (earlier later : List (ι × Instant)) :
    Keeps (Race.run tokens calls earlier).agents
      (Race.run tokens calls (earlier ++ later)).agents := by
  induction later using List.reverseRecOn with
  | nil =>
      rw [List.append_nil]
      exact .refl _
  | append_singleton later move ih =>
      rw [← List.append_assoc, Race.run_append]
      have hrace := Race.run_invariant tokens hfresh (earlier ++ later)
      obtain ⟨after, next, hstep, hadvance⟩ := hrace.advance move.1 move.2
      rw [show move = (move.1, move.2) from rfl, hstep]
      exact ih.trans (hadvance.keeps (hrace.stepInvariant move.1))

/-- All stored times, at all moments of a race, have a later one. -/
def Race.BelowLimit (tokens : BootstrapTokens) (calls : ι → RegisterCall)
    (schedule : List (ι × Instant)) : Prop :=
  ∀ moment, moment <+: schedule → TimesBelowLimit (Race.run tokens calls moment).agents

theorem Race.BelowLimit.of_append {tokens : BootstrapTokens} {calls : ι → RegisterCall}
    {schedule later : List (ι × Instant)}
    (hlimit : Race.BelowLimit tokens calls (schedule ++ later)) :
    Race.BelowLimit tokens calls schedule :=
  fun moment hmoment => hlimit moment (hmoment.trans (List.prefix_append _ _))

theorem Race.run_dated {tokens : BootstrapTokens} {calls : ι → RegisterCall}
    (hfresh : Function.Injective fun i => (calls i).agentId) {schedule : List (ι × Instant)}
    (hlimit : Race.BelowLimit tokens calls schedule) (i : ι) :
    Dated (calls i).agentId ((Race.run tokens calls schedule).stage i) := by
  induction schedule using List.reverseRecOn with
  | nil =>
      rw [Race.run, List.foldl_nil]
      rcases Race.start_stage_cases tokens calls i with ⟨hstage, _⟩ | ⟨error, hstage, _⟩
      · rw [hstage]
        trivial
      · rw [hstage]
        trivial
  | append_singleton schedule move ih =>
      obtain ⟨mover, now⟩ := move
      have hdated := ih hlimit.of_append
      have hrace := Race.run_invariant tokens hfresh schedule
      obtain ⟨after, next, hstep, hadvance⟩ := hrace.advance mover now
      rw [Race.run_append, hstep]
      by_cases hmover : i = mover
      · subst hmover
        have hbelow := hlimit schedule (List.prefix_append _ _)
        simpa using hadvance.dated hbelow (hrace.stepInvariant i) hdated
      · simpa [hmover] using hdated

omit [DecidableEq ι] in
theorem Race.Invariant.stranger {calls : ι → RegisterCall} {race : Race ι}
    (hrace : race.Invariant calls) {agentId : String}
    (hstranger : ∀ i, (calls i).agentId ≠ agentId) : race.agents.get? agentId = none := by
  by_contra hsome
  obtain ⟨i, hid, _⟩ := hrace.creators agentId hsome
  exact hstranger i hid

omit [DecidableEq ι] in
theorem Race.Invariant.same_agent {calls : ι → RegisterCall} {race : Race ι}
    (hrace : race.Invariant calls) {i j : ι} {record other : AgentRecord}
    (hrecord : race.stage i = .over (.ok record)) (hother : race.stage j = .over (.ok other))
    (hsame : (calls i).admission.fingerprint = (calls j).admission.fingerprint) :
    record.agentId = other.agentId := by
  have hi := hrace.knows i
  have hj := hrace.knows j
  rw [hrecord] at hi
  rw [hother] at hj
  obtain ⟨held, hheld, hidentity⟩ := hi.1.held
  obtain ⟨rival, hrival, hrivalry⟩ := hj.1.held
  rw [identityOf_eq_iff] at hidentity hrivalry
  apply hrace.indexed.fingerprints.unique hheld hrival
  rw [hidentity.2.1, hrivalry.2.1, hi.1.fingerprint, hj.1.fingerprint, hsame]

omit [DecidableEq ι] in
/-- Behind every success there is the registration that brought in the agent. -/
theorem Race.Invariant.first {calls : ι → RegisterCall} {race : Race ι}
    (hrace : race.Invariant calls) {i : ι} {record : AgentRecord}
    (hrecord : race.stage i = .over (.ok record)) :
    ∃ j first, race.stage j = .over (.ok first) ∧ (calls j).agentId = record.agentId ∧
      (calls j).admission.fingerprint = (calls i).admission.fingerprint ∧
      RegistrationOutcome.of first = .registered := by
  have hi := hrace.knows i
  rw [hrecord] at hi
  obtain ⟨held, hheld, hidentity⟩ := hi.1.held
  obtain ⟨j, hid, first, hfirst, howner⟩ :=
    hrace.creators record.agentId (by rw [hheld]; simp)
  have hj := hrace.knows j
  rw [hfirst] at hj
  obtain ⟨rival, hrival, hrivalry⟩ := hj.1.held
  rw [howner, hheld] at hrival
  cases hrival
  rw [identityOf_eq_iff] at hidentity hrivalry
  refine ⟨j, first, hfirst, hid, ?_, ?_⟩
  · rw [← hj.1.fingerprint, ← hi.1.fingerprint, ← hrivalry.2.1, hidentity.2.1]
  · rw [outcome_eq_registered_iff]
    exact hj.2 (howner.trans hid.symm)

/-- What a race keeps to, whoever moves when. -/
structure Race.Converges (tokens : BootstrapTokens) (calls : ι → RegisterCall)
    (schedule : List (ι × Instant)) : Prop where
  /-- At most one record has a given fingerprint. -/
  fingerprints : ∀ id other record rival,
    (Race.run tokens calls schedule).agents.get? id = some record →
    (Race.run tokens calls schedule).agents.get? other = some rival →
    record.fingerprint = rival.fingerprint → id = other
  /-- At most one record has a given public key. -/
  keys : ∀ id other record rival,
    (Race.run tokens calls schedule).agents.get? id = some record →
    (Race.run tokens calls schedule).agents.get? other = some rival →
    record.publicKey = rival.publicKey → id = other
  /-- A search by fingerprint finds exactly the record that has it. -/
  findByFingerprint : ∀ fingerprint record,
    (Race.run tokens calls schedule).agents.findByFingerprint? fingerprint = some record ↔
      (∃ id, (Race.run tokens calls schedule).agents.get? id = some record) ∧
        record.fingerprint = fingerprint
  /-- A search by public key finds exactly the record that holds it. -/
  findByPublicKey : ∀ key record,
    (Race.run tokens calls schedule).agents.findByPublicKey? key = some record ↔
      (∃ id, (Race.run tokens calls schedule).agents.get? id = some record) ∧
        record.publicKey = key
  /-- A record keeps its identity from any earlier moment on. -/
  keeps : ∀ earlier, earlier <+: schedule → ∀ id record,
    (Race.run tokens calls earlier).agents.get? id = some record →
    ∃ later, (Race.run tokens calls schedule).agents.get? id = some later ∧
      later.agentId = record.agentId ∧ later.fingerprint = record.fingerprint ∧
      later.tokenId = record.tokenId ∧ later.registeredAt = record.registeredAt ∧
      later.createdAt = record.createdAt
  /-- Registrations that succeed for one fingerprint give one agent. -/
  sameAgent : ∀ i j record other,
    (Race.run tokens calls schedule).stage i = .over (.ok record) →
    (Race.run tokens calls schedule).stage j = .over (.ok other) →
    trim (calls i).request.fingerprint = trim (calls j).request.fingerprint →
    record.agentId = other.agentId
  /-- Of those that succeed for one fingerprint, exactly one is a first registration. -/
  oneRegistered : ∀ i record,
    (Race.run tokens calls schedule).stage i = .over (.ok record) →
    ∃! j, trim (calls j).request.fingerprint = trim (calls i).request.fingerprint ∧
      ∃ first, (Race.run tokens calls schedule).stage j = .over (.ok first) ∧
        RegistrationOutcome.of first = .registered

/-- Registrations converge in every order of their calls to the store. -/
theorem racing_registrations_converge (tokens : BootstrapTokens) {calls : ι → RegisterCall}
    (hfresh : Function.Injective fun i => (calls i).agentId) {schedule : List (ι × Instant)}
    (hlimit : Race.BelowLimit tokens calls schedule) :
    Race.Converges tokens calls schedule := by
  have hrace := Race.run_invariant tokens hfresh schedule
  refine ⟨?_, ?_, hrace.indexed.fingerprints.find_iff, ?_, ?_, ?_, ?_⟩
  · intro id other record rival hrecord hrival hsame
    exact hrace.indexed.fingerprints.unique hrecord hrival hsame
  · intro id other record rival hrecord hrival hsame
    exact hrace.indexed.keys.unique hrecord hrival hsame (hrace.records id record hrecord).publicKey
  · intro key record
    rw [hrace.indexed.keys.find_iff]
    constructor
    · rintro ⟨hheld, hkey, _⟩
      exact ⟨hheld, hkey⟩
    · rintro ⟨⟨id, hheld⟩, rfl⟩
      exact ⟨⟨id, hheld⟩, rfl, (hrace.records id record hheld).publicKey⟩
  · rintro earlier ⟨rest, rfl⟩ id record hrecord
    obtain ⟨later, hlater, hidentity⟩ := Race.run_keeps tokens hfresh earlier rest id record hrecord
    exact ⟨later, hlater, (identityOf_eq_iff later record).1 hidentity⟩
  · intro i j record other hrecord hother hsame
    exact hrace.same_agent hrecord hother hsame
  · intro i record hrecord
    obtain ⟨j, first, hfirst, hid, hsame, houtcome⟩ := hrace.first hrecord
    refine ⟨j, ⟨hsame, first, hfirst, houtcome⟩, ?_⟩
    rintro k ⟨hrival, other, hother, hregistered⟩
    rw [outcome_eq_registered_iff] at hregistered
    have hagent := hrace.same_agent hother hrecord hrival
    have hdated := Race.run_dated hfresh hlimit k
    rw [hother] at hdated
    have hown : other.agentId = (calls k).agentId := by
      by_contra hnot
      exact Instant.ne_of_lt (hdated hnot) hregistered.symm
    exact hfresh (hown.symm.trans (hagent.trans hid.symm))

theorem Race.run_within {tokens : BootstrapTokens} {calls : ι → RegisterCall}
    (hfresh : Function.Injective fun i => (calls i).agentId) {schedule : List (ι × Instant)}
    {bound : Int} (hclock : ∀ move ∈ schedule, move.2.seconds ≤ bound) (i : ι) :
    Within (bound + schedule.length) (Race.run tokens calls schedule).agents
      ((Race.run tokens calls schedule).stage i) := by
  induction schedule using List.reverseRecOn generalizing i with
  | nil =>
      refine ⟨?_, ?_⟩
      · intro id record hrecord
        cases hrecord
      · rw [Race.run, List.foldl_nil]
        rcases Race.start_stage_cases tokens calls i with ⟨hstage, _⟩ | ⟨error, hstage, _⟩
        · simp [hstage]
        · simp [hstage]
  | append_singleton schedule move ih =>
      obtain ⟨mover, now⟩ := move
      have hbefore := ih fun move hmove => hclock move (List.mem_append_left _ hmove)
      have hnow : now.seconds ≤ bound + schedule.length := by
        have hreading := hclock (mover, now) (by simp)
        simp only at hreading
        omega
      have hrace := Race.run_invariant tokens hfresh schedule
      obtain ⟨after, next, hstep, hadvance⟩ := hrace.advance mover now
      have hafter := hadvance.within hrace.indexed.fingerprints hnow (hbefore mover)
      rw [Race.run_append, hstep, List.length_append, List.length_singleton]
      have hbound : bound + ((schedule.length + 1 : Nat) : Int) = bound + schedule.length + 1 := by
        omega
      rw [hbound]
      by_cases hmover : i = mover
      · subst hmover
        simpa using hafter
      · refine ⟨hafter.stored, ?_⟩
        intro record hrecord
        have hpending := (hbefore i).pending record (by simpa [hmover] using hrecord)
        omega

/-- It is enough that the clock stays some seconds away from the end of the calendar, one for each
move. -/
theorem Race.belowLimit_of_clock {tokens : BootstrapTokens} {calls : ι → RegisterCall}
    (hfresh : Function.Injective fun i => (calls i).agentId) {schedule : List (ι × Instant)}
    (hclock : ∀ move ∈ schedule, move.2.seconds + schedule.length < lastSecond) :
    Race.BelowLimit tokens calls schedule := by
  rintro moment ⟨rest, rfl⟩ id record hrecord
  cases moment with
  | nil => cases hrecord
  | cons move moment =>
      have hbound : ∀ other ∈ move :: moment,
          other.2.seconds ≤ lastSecond - 1 - (move :: moment).length := by
        intro other hother
        have hreading := hclock other (List.mem_append_left _ hother)
        rw [List.length_append] at hreading
        omega
      have hstored := (Race.run_within hfresh hbound move.1).stored id record hrecord
      apply Instant.lt_limit
      omega

/-- Two registrations of one host that both find the fingerprint free: one creates the agent, the
other loses and refreshes it. -/
theorem racing_registrations_lost_creation :
    let request : RegistrationRequest := ⟨"host-1", "tok", "secret",
      "MBowDQYJKoZIhvcNAQEBBQADCQAwBgIBBQIBAw==", "rsa", []⟩
    let calls : Bool → RegisterCall := fun i => ⟨request, if i then "agent-1" else "agent-2"⟩
    let schedule : List (Bool × Instant) :=
      [true, false, true, false, true, false, false, false].map fun i => (i, Instant.epoch)
    let tokens := BootstrapTokens.ofTokens [⟨"tok", "secret"⟩]
    (Function.Injective fun i => (calls i).agentId) ∧ Race.BelowLimit tokens calls schedule ∧
      Race.Converges tokens calls schedule := by
  intro request calls schedule tokens
  have hfresh : Function.Injective fun i => (calls i).agentId := by
    intro i j hsame
    cases i <;> cases j <;> simp_all [calls]
  have hlimit : Race.BelowLimit tokens calls schedule :=
    Race.belowLimit_of_clock hfresh (by decide)
  exact ⟨hfresh, hlimit, racing_registrations_converge tokens hfresh hlimit⟩

end Muster.ControlPlane
