import Mathlib.Data.Nat.Find
import Muster.Agent.Poll
import Muster.Proofs.ExactBackoff
/-!
The attempts of a poll to report. However the control plane answers, they end with the first answer
that settles the matter, or with the last attempt that the policy allows, and between two of them
the agent waits as the policy has it. A jitter from which no wait can be drawn cuts them short.
-/
namespace Muster.Agent

open Muster.Time

section
variable {m : Type → Type} [Monad m]

/-- Sends a report again and again until it is taken, or refused for good, or the policy allows no
further attempt. No answer at all means that it is still open behind so many attempts. -/
def reportResult (policy : Backoff) (send : m (Except ClientError Task)) (wait : Nat → m Unit) :
    Nat → Nat → m (Option (Except ClientError Task))
  | 0, _ => pure none
  | attempts + 1, failures => do
      match ← send with
      | .ok task => pure (some (.ok task))
      | .error error =>
          if error.isRetryable ∧ policy.shouldRetry (failures + 1) then do
            wait failures
            reportResult policy send wait attempts (failures + 1)
          else pure (some (.error error))

/-- The stage to which a poll comes with its report. -/
def PollStage.reported (id : String) (update : UpdateTaskRequest) (failures : Nat) :
    Option (Except ClientError Task) → PollStage
  | none => .report id update failures
  | some answer => .over (answer.map fun _ => true)

/-- From its first report on, a poll does nothing else. -/
theorem runPoll_report [LawfulMonad m] (policy : Backoff) (ask : PollCall → m PollReply)
    {send : m (Except ClientError Task)} {wait : Nat → m Unit} {id : String}
    {update : UpdateTaskRequest}
    (hsend : ask (.send (.report id update)) =
      (fun answer => .answered (answer.map some)) <$> send)
    (hwait : ∀ attempt, ask (.pause attempt) = (fun _ => .resumed) <$> wait attempt)
    (attempts failures : Nat) :
    runPoll policy ask (2 * attempts) (.report id update failures) =
      PollStage.reported id update (failures + attempts) <$>
        reportResult policy send wait attempts failures := by
  induction attempts generalizing failures with
  | zero => simp [runPoll, reportResult, PollStage.reported]
  | succ attempts ih =>
      rw [Nat.mul_add, reportResult]
      simp only [runPoll, PollStage.call?, hsend, bind_map_left, map_bind]
      congr 1
      funext answer
      cases answer with
      | ok task => simp [PollStage.next, PollStage.reported, Except.map]
      | error error =>
          by_cases hagain : error.isRetryable ∧ policy.shouldRetry (failures + 1)
          · simp only [Except.map, PollStage.next, afterFailure, if_pos hagain,
              Nat.add_sub_cancel, hwait, bind_map_left, map_bind]
            rw [ih, Nat.add_right_comm]
            rfl
          · simp [PollStage.next, Except.map, afterFailure, hagain, PollStage.reported]

end

/-- What a poll does to report: it sends, and it waits. -/
inductive Deed
  | sent (call : TaskCall)
  | waited (length : Duration)
deriving Repr, DecidableEq

def Deed.isSent : Deed → Bool
  | .sent _ => true
  | .waited _ => false

/-- Something that adds to the deeds. It has no result if the generator of random numbers panics. -/
abbrev Doing := OptionT (StateM (List Deed))

/-- The result, and the deeds that there are then. -/
def Doing.behind {α : Type} (doing : Doing α) (deeds : List Deed) : Option α × List Deed :=
  StateT.run doing.run deeds

section
variable {α β : Type} {doing : Doing α} {deeds later : List Deed}

theorem Doing.behind_bind_of_some {a : α} (hdoing : doing.behind deeds = (some a, later))
    (next : α → Doing β) : Doing.behind (doing >>= next) deeds = (next a).behind later := by
  simp only [behind, OptionT.run_bind, Option.elimM, StateT.run_bind] at hdoing ⊢
  rw [hdoing]
  rfl

theorem Doing.behind_bind_of_none (hdoing : doing.behind deeds = (none, later))
    (next : α → Doing β) : Doing.behind (doing >>= next) deeds = (none, later) := by
  simp only [behind, OptionT.run_bind, Option.elimM, StateT.run_bind] at hdoing ⊢
  rw [hdoing]
  rfl

theorem Doing.behind_map (f : α → β) (doing : Doing α) (deeds : List Deed) :
    Doing.behind (f <$> doing) deeds =
      ((doing.behind deeds).1.map f, (doing.behind deeds).2) := by
  simp only [behind, OptionT.run_map, StateT.run_map]
  rfl

end

/-- What a poll meets when it reports: the answer to every attempt, and the draw for the wait behind
it. Attempts are counted from zero. -/
structure Course where
  answers : Nat → Except ClientError Task
  draws : Nat → Float

/-- Each request that is sent gets the next answer. -/
def Course.send (course : Course) (call : TaskCall) : Doing (Except ClientError Task) := do
  let deeds ← get
  set (deeds ++ [.sent call])
  return course.answers (deeds.countP Deed.isSent)

/-- A wait is as long as the policy has it for the draw. -/
def Course.wait (course : Course) (policy : Backoff) (attempt : Nat) : Doing Unit :=
  match policy.delay attempt (course.draws attempt) with
  | some length => modify (· ++ [.waited length])
  | none => failure

/-- The world outside, as a poll meets it from its first report on. It runs no command. -/
def Course.reply (course : Course) (policy : Backoff) : PollCall → Doing PollReply
  | .send call => (fun answer => .answered (answer.map some)) <$> course.send call
  | .pause attempt => (fun _ => .resumed) <$> course.wait policy attempt
  | .execute _ => pure .resumed

/-- What comes of so many attempts to report, and what has been done in them. -/
def Course.report (course : Course) (policy : Backoff) (call : TaskCall) (attempts : Nat) :
    Option (Option (Except ClientError Task)) × List Deed :=
  Doing.behind (reportResult policy (course.send call) (course.wait policy) attempts 0) []

/-- The same for a poll, which takes two steps for each attempt and the wait behind it. -/
def Course.poll (course : Course) (policy : Backoff) (id : String) (update : UpdateTaskRequest)
    (attempts : Nat) : Option PollStage × List Deed :=
  Doing.behind (runPoll policy (course.reply policy) (2 * attempts) (.report id update 0)) []

theorem Course.poll_eq (course : Course) (policy : Backoff) (id : String)
    (update : UpdateTaskRequest) (attempts : Nat) :
    course.poll policy id update attempts =
      ((course.report policy (.report id update) attempts).1.map
          (PollStage.reported id update attempts),
        (course.report policy (.report id update) attempts).2) := by
  rw [poll, runPoll_report policy (course.reply policy) rfl (fun _ => rfl), Nat.zero_add,
    Doing.behind_map]
  rfl

variable {policy : Backoff} {course : Course} {call : TaskCall}

/-- The wait behind an attempt, if one can be drawn. -/
def Course.waits (course : Course) (policy : Backoff) (n : Nat) : List Deed :=
  ((policy.delay n (course.draws n)).map Deed.waited).toList

/-- So many attempts, each with the wait behind it. -/
def Course.rounds (course : Course) (policy : Backoff) (call : TaskCall) (n : Nat) : List Deed :=
  (List.range n).flatMap fun i => .sent call :: course.waits policy i

theorem Course.rounds_succ (course : Course) (policy : Backoff) (call : TaskCall) (n : Nat) :
    course.rounds policy call (n + 1) =
      course.rounds policy call n ++ [.sent call] ++ course.waits policy n := by
  simp [rounds, List.range_succ]

theorem Course.countP_rounds (course : Course) (policy : Backoff) (call : TaskCall) (n : Nat) :
    (course.rounds policy call n).countP Deed.isSent = n := by
  induction n with
  | zero => rfl
  | succ n ih =>
      have hwaits : (course.waits policy n).countP Deed.isSent = 0 := by
        rw [waits]
        cases policy.delay n (course.draws n) <;> rfl
      rw [rounds_succ, List.countP_append, List.countP_append, ih, hwaits]
      rfl

theorem Course.behind_send (course : Course) (policy : Backoff) (call : TaskCall) (n : Nat) :
    Doing.behind (course.send call) (course.rounds policy call n) =
      (some (course.answers n), course.rounds policy call n ++ [.sent call]) := by
  change (some (course.answers ((course.rounds policy call n).countP Deed.isSent)), _) = _
  rw [countP_rounds]

theorem Course.behind_wait_of_some {n : Nat} {length : Duration}
    (hlength : policy.delay n (course.draws n) = some length) (deeds : List Deed) :
    Doing.behind (course.wait policy n) deeds = (some (), deeds ++ [.waited length]) := by
  rw [wait, hlength]
  rfl

theorem Course.behind_wait_of_none {n : Nat}
    (hlength : policy.delay n (course.draws n) = none) (deeds : List Deed) :
    Doing.behind (course.wait policy n) deeds = (none, deeds) := by
  rw [wait, hlength]
  rfl

/-- A wait can be drawn behind an attempt: there is no jitter, or a range of numbers for it. -/
def Backoff.CanDraw (policy : Backoff) (attempt : Nat) : Prop :=
  policy.jitter ≤ 0 ∨ (jitterScale (policy.plainDelay attempt) policy.jitter).isFinite = true

/-- Whether there is a wait does not depend on the draw. -/
theorem Backoff.delay_isSome_iff (policy : Backoff) (attempt : Nat) (draw : Float) :
    (policy.delay attempt draw).isSome = true ↔ policy.CanDraw attempt := by
  rw [delay, jittered, CanDraw]
  split
  · next hnone => simp [hnone]
  · next hsome =>
      by_cases hscale : (jitterScale (policy.plainDelay attempt) policy.jitter).isFinite = true
      · simp [hscale]
      · simp [hsome, hscale]

/-- The policies of an agent always have a wait, however many attempts they allow. -/
theorem Backoff.standard_canDraw (most : Option Nat) (attempt : Nat) :
    Backoff.CanDraw { Backoff.standard with maxAttempts := most } attempt := by
  refine Or.inr ?_
  change (jitterScale (Backoff.standard.plainDelay attempt) 0.25).isFinite = true
  rcases Nat.lt_or_ge attempt 6 with hearly | hlate
  · have hfirst : ∀ early < 6,
        (jitterScale (Backoff.standard.plainDelay early) 0.25).isFinite = true := by
      decide +kernel
    exact hfirst attempt hearly
  · -- the limit of a minute is reached
    have hpower : Nat.pow 2 6 ≤ Nat.pow 2 attempt := Nat.pow_le_pow_right (by decide) hlate
    have hnanos := Backoff.standard.nanos_plainDelay attempt
    change _ = min (min 18446744073709551615 (1000 * Nat.pow 2 attempt) * 1000000) 60000000000
      at hnanos
    have hminute : Backoff.standard.plainDelay attempt = ⟨60000000000⟩ := by
      apply Duration.eq_of_nanos
      change 64 ≤ Nat.pow 2 attempt at hpower
      omega
    rw [hminute]
    decide +kernel

def GoesOn (policy : Backoff) (answers : Nat → Except ClientError Task) (n : Nat) : Prop :=
  ∃ error, answers n = .error error ∧ error.isRetryable = true ∧ policy.shouldRetry (n + 1) = true

/-- What comes of some more attempts, behind so many others. -/
def Course.onward (course : Course) (policy : Backoff) (call : TaskCall) (attempts n : Nat) :
    Option (Option (Except ClientError Task)) × List Deed :=
  Doing.behind (reportResult policy (course.send call) (course.wait policy) attempts n)
    (course.rounds policy call n)

theorem Course.attempt (course : Course) (policy : Backoff) (call : TaskCall) (attempts n : Nat) :
    (GoesOn policy course.answers n ∧ policy.CanDraw n ∧
      course.onward policy call (attempts + 1) n = course.onward policy call attempts (n + 1)) ∨
    (GoesOn policy course.answers n ∧ ¬ policy.CanDraw n ∧
      course.onward policy call (attempts + 1) n =
        (none, course.rounds policy call n ++ [.sent call])) ∨
    (¬ GoesOn policy course.answers n ∧
      course.onward policy call (attempts + 1) n =
        (some (some (course.answers n)), course.rounds policy call n ++ [.sent call])) := by
  rw [onward, reportResult, Doing.behind_bind_of_some (course.behind_send policy call n)]
  cases hanswer : course.answers n with
  | ok task =>
      refine Or.inr (Or.inr ⟨?_, rfl⟩)
      rintro ⟨error, herror, -⟩
      cases hanswer.symm.trans herror
  | error error =>
      by_cases hagain : error.isRetryable ∧ policy.shouldRetry (n + 1)
      · have hgoesOn : GoesOn policy course.answers n := ⟨error, hanswer, hagain⟩
        have hdraw := policy.delay_isSome_iff n (course.draws n)
        simp only [if_pos hagain]
        cases hlength : policy.delay n (course.draws n) with
        | some length =>
            rw [hlength] at hdraw
            refine Or.inl ⟨hgoesOn, hdraw.1 rfl, ?_⟩
            rw [onward, rounds_succ, waits, hlength]
            exact Doing.behind_bind_of_some (behind_wait_of_some hlength _) _
        | none =>
            rw [hlength] at hdraw
            refine Or.inr (Or.inl ⟨hgoesOn, fun hcan => Bool.noConfusion (hdraw.2 hcan), ?_⟩)
            exact Doing.behind_bind_of_none (behind_wait_of_none hlength _) _
      · refine Or.inr (Or.inr ⟨?_, ?_⟩)
        · rintro ⟨other, hother, hretry⟩
          cases hanswer.symm.trans hother
          exact hagain hretry
        · simp only [if_neg hagain]
          rfl

def greatest32 : Nat := UInt32.size - 1

/-- The waits do not grow for ever, so that attempts need not be counted beyond some number. -/
theorem Backoff.delay_min (policy : Backoff) {limit : Nat} (hlimit : 64 ≤ limit) (attempt : Nat)
    (draw : Float) : policy.delay (min attempt limit) draw = policy.delay attempt draw := by
  rcases Nat.le_total attempt limit with hle | hge
  · rw [Nat.min_eq_left hle]
  · rw [Nat.min_eq_right hge]
    simp only [delay, plainDelay, doubling, if_neg (Nat.not_lt.2 hlimit),
      if_neg (Nat.not_lt.2 (Nat.le_trans hlimit hge))]

theorem Backoff.shouldRetry_iff (policy : Backoff) (attempts : Nat) :
    policy.shouldRetry attempts = true ↔
      ∀ most, policy.maxAttempts = some most → attempts < most := by
  simp [shouldRetry, Option.all_eq_true]

/-- Nor does a limit tell numbers beyond it apart. -/
theorem Backoff.shouldRetry_min {policy : Backoff} {limit : Nat}
    (hlimit : ∀ most, policy.maxAttempts = some most → most ≤ limit) (attempts : Nat) :
    policy.shouldRetry (min attempts limit) = policy.shouldRetry attempts := by
  rw [Bool.eq_iff_iff, shouldRetry_iff, shouldRetry_iff]
  constructor
  · intro hbelow most hmost
    have := hbelow most hmost
    have := hlimit most hmost
    omega
  · intro hbelow most hmost
    have := hbelow most hmost
    omega

/-- An attempt settles the matter if the report is taken, or refused for good, or if it is the last
one that the policy allows. The first attempt is made in any case. -/
def Settles (policy : Backoff) (answers : Nat → Except ClientError Task) (n : Nat) : Prop :=
  (∃ task, answers n = .ok task) ∨
  (∃ error, answers n = .error error ∧ error.isRetryable = false) ∨
  ∃ most, policy.maxAttempts = some most ∧ n + 1 = max 1 most

/-- The agent gets to this attempt: none before it settles the matter, and there is a wait behind each
of them. -/
def Course.Reaches (course : Course) (policy : Backoff) (n : Nat) : Prop :=
  ∀ k < n, ¬ Settles policy course.answers k ∧ policy.CanDraw k

variable {n : Nat}

/-- An attempt that the agent gets to is followed by another one unless it settles the matter. -/
theorem Course.Reaches.goesOn_iff (hreaches : course.Reaches policy n) :
    GoesOn policy course.answers n ↔ ¬ Settles policy course.answers n := by
  constructor
  · rintro ⟨error, hanswer, hretryable, hretry⟩ (⟨task, hok⟩ | ⟨other, hother, hfinal⟩ |
      ⟨most, hmost, hlast⟩)
    · cases hanswer.symm.trans hok
    · cases hanswer.symm.trans hother
      cases hretryable.symm.trans hfinal
    · have hbelow := (policy.shouldRetry_iff _).1 hretry most hmost
      omega
  · intro hstill
    cases hanswer : course.answers n with
    | ok task => exact absurd (Or.inl ⟨task, hanswer⟩) hstill
    | error error =>
        refine ⟨error, hanswer, ?_, ?_⟩
        · cases hretryable : error.isRetryable with
          | true => rfl
          | false => exact absurd (Or.inr (Or.inl ⟨error, hanswer, hretryable⟩)) hstill
        · rw [Backoff.shouldRetry_iff]
          intro most hmost
          -- otherwise the limit would have been reached at this attempt or before it
          by_contra hreached
          rcases Nat.lt_or_ge (max 1 most) (n + 1) with hearlier | hnow
          · exact (hreaches (max 1 most - 1) (by omega)).1
              (Or.inr (Or.inr ⟨most, hmost, by omega⟩))
          · exact hstill (Or.inr (Or.inr ⟨most, hmost, by omega⟩))

/-- The attempts up to there come with their waits, and others follow. -/
theorem Course.Reaches.report (hreaches : course.Reaches policy n) (attempts : Nat) :
    course.report policy call (n + attempts) = course.onward policy call attempts n := by
  induction n generalizing attempts with
  | zero =>
      rw [Nat.zero_add]
      rfl
  | succ n ih =>
      have hbefore : course.Reaches policy n := fun k hk => hreaches k (Nat.lt_succ_of_lt hk)
      obtain ⟨hstill, hcan⟩ := hreaches n (Nat.lt_succ_self n)
      have hgoesOn := hbefore.goesOn_iff.2 hstill
      rw [Nat.add_right_comm, Nat.add_assoc, ih hbefore]
      rcases course.attempt policy call attempts n with ⟨-, -, hrun⟩ | ⟨-, hnot, -⟩ | ⟨hover, -⟩
      · exact hrun
      · exact absurd hcan hnot
      · exact absurd hgoesOn hover

theorem Course.Reaches.report_of_settled (hreaches : course.Reaches policy n)
    (hsettles : Settles policy course.answers n) (call : TaskCall) {attempts : Nat}
    (hlt : n < attempts) :
    course.report policy call attempts =
      (some (some (course.answers n)), course.rounds policy call n ++ [.sent call]) := by
  obtain ⟨left, rfl⟩ := Nat.exists_eq_add_of_lt hlt
  have hover : ¬ GoesOn policy course.answers n :=
    fun hgoesOn => hreaches.goesOn_iff.1 hgoesOn hsettles
  rw [Nat.add_assoc, hreaches.report]
  rcases course.attempt policy call left n with ⟨hgoesOn, -, -⟩ | ⟨hgoesOn, -, -⟩ | ⟨-, hrun⟩
  · exact absurd hgoesOn hover
  · exact absurd hgoesOn hover
  · exact hrun

/-- The attempts also end with one that settles nothing, if there is no wait behind it. -/
theorem Course.Reaches.report_of_stuck (hreaches : course.Reaches policy n)
    (hstill : ¬ Settles policy course.answers n) (hstuck : ¬ policy.CanDraw n) (call : TaskCall)
    {attempts : Nat} (hlt : n < attempts) :
    course.report policy call attempts = (none, course.rounds policy call n ++ [.sent call]) := by
  obtain ⟨left, rfl⟩ := Nat.exists_eq_add_of_lt hlt
  rw [Nat.add_assoc, hreaches.report]
  rcases course.attempt policy call left n with ⟨-, hcan, -⟩ | ⟨-, -, hrun⟩ | ⟨hover, -⟩
  · exact absurd hcan hstuck
  · exact hrun
  · exact absurd (hreaches.goesOn_iff.2 hstill) hover

/-- With a limit, some attempt settles the matter or is the last one that has a wait before it. -/
theorem Course.exists_end (course : Course) (policy : Backoff) {most : Nat}
    (hmost : policy.maxAttempts = some most) : ∃ n < max 1 most, course.Reaches policy n ∧
      (Settles policy course.answers n ∨ ¬ policy.CanDraw n) := by
  classical
  have hlimit : Settles policy course.answers (max 1 most - 1) :=
    Or.inr (Or.inr ⟨most, hmost, by omega⟩)
  have hends : ∃ n, Settles policy course.answers n ∨ ¬ policy.CanDraw n := ⟨_, Or.inl hlimit⟩
  have hle : Nat.find hends ≤ max 1 most - 1 := Nat.find_min' hends (Or.inl hlimit)
  refine ⟨Nat.find hends, by omega, ?_, Nat.find_spec hends⟩
  intro k hk
  have hopen := Nat.find_min hends hk
  rw [not_or, not_not] at hopen
  exact hopen

/-- What the attempts of a poll to report come to. -/
structure Course.MakesItsAttempts (course : Course) (policy : Backoff) (id : String)
    (update : UpdateTaskRequest) : Prop where
  /-- They end with the first one that settles the matter, and with the answer to it. -/
  ends : ∀ n, course.Reaches policy n → Settles policy course.answers n →
    ∀ attempts, n < attempts →
      course.report policy (.report id update) attempts =
        (some (some (course.answers n)),
          course.rounds policy (.report id update) n ++ [.sent (.report id update)]) ∧
      course.poll policy id update attempts =
        (some (.over ((course.answers n).map fun _ => true)),
          course.rounds policy (.report id update) n ++ [.sent (.report id update)])
  /-- Where no wait can be drawn behind one that does not, they end with it, and with no answer. -/
  panics : ∀ n, course.Reaches policy n → ¬ Settles policy course.answers n → ¬ policy.CanDraw n →
    ∀ attempts, n < attempts →
      course.report policy (.report id update) attempts =
        (none, course.rounds policy (.report id update) n ++ [.sent (.report id update)]) ∧
      course.poll policy id update attempts =
        (none, course.rounds policy (.report id update) n ++ [.sent (.report id update)])
  /-- Up to there, each one is followed by the wait that the policy has for it. -/
  goesOn : ∀ attempts, course.Reaches policy attempts →
    course.report policy (.report id update) attempts =
      (some none, course.rounds policy (.report id update) attempts) ∧
    course.poll policy id update attempts =
      (some (.report id update attempts), course.rounds policy (.report id update) attempts)
  /-- With a limit they end in any case. -/
  limited : ∀ most, policy.maxAttempts = some most → ∃ n < max 1 most, course.Reaches policy n ∧
    (Settles policy course.answers n ∨ ¬ policy.CanDraw n)
  /-- There is always a wait without jitter, and with the policies of an agent. -/
  drawn : policy.jitter ≤ 0 ∨ policy = { Backoff.standard with maxAttempts := policy.maxAttempts } →
    ∀ n, policy.CanDraw n
  wait : ∀ n draw, (policy.delay n draw).isSome = true ↔ policy.CanDraw n
  /-- It makes no difference to count the failures in 32 bits, with a limit of 32 bits. -/
  counted : (∀ most, policy.maxAttempts = some most → most ≤ greatest32) → ∀ failures,
    policy.shouldRetry (min failures greatest32) = policy.shouldRetry failures ∧
    ∀ draw, policy.delay (min failures greatest32 - 1) draw = policy.delay (failures - 1) draw

/-- Whatever the answers are, a poll makes the attempts to report that its policy has in mind. -/
theorem report_makes_its_attempts (course : Course) (policy : Backoff) (id : String)
    (update : UpdateTaskRequest) : course.MakesItsAttempts policy id update := by
  refine ⟨?ends, ?panics, ?goesOn, fun most hmost => course.exists_end policy hmost, ?drawn,
    policy.delay_isSome_iff, ?counted⟩
  case ends =>
    intro n hreaches hsettles attempts hlt
    have hreport := hreaches.report_of_settled hsettles (.report id update) hlt
    exact ⟨hreport, by rw [Course.poll_eq, hreport]; rfl⟩
  case panics =>
    intro n hreaches hstill hstuck attempts hlt
    have hreport := hreaches.report_of_stuck hstill hstuck (.report id update) hlt
    exact ⟨hreport, by rw [Course.poll_eq, hreport]; rfl⟩
  case goesOn =>
    intro attempts hreaches
    have hreport : course.report policy (.report id update) attempts =
        (some none, course.rounds policy (.report id update) attempts) :=
      hreaches.report 0
    exact ⟨hreport, by rw [Course.poll_eq, hreport]; rfl⟩
  case drawn =>
    rintro (hnone | hstandard) n
    · exact Or.inl hnone
    · rw [hstandard]
      exact Backoff.standard_canDraw _ n
  case counted =>
    intro hlimit failures
    refine ⟨Backoff.shouldRetry_min hlimit failures, ?_⟩
    intro draw
    have hnumber : min failures greatest32 - 1 = min (failures - 1) (greatest32 - 1) := by omega
    rw [hnumber, policy.delay_min (by decide)]

/-- A limit of three attempts, at a control plane that is down all the while. -/
example (id : String) (update : UpdateTaskRequest) :
    let policy : Backoff := { maxAttempts := some 3, jitter := 0 }
    let course : Course := ⟨fun _ => .error (.rejected 503 "down"), fun _ => 0⟩
    let sent : Deed := .sent (.report id update)
    course.report policy (.report id update) 10 =
      (some (some (.error (.rejected 503 "down"))),
        [sent, .waited (.ofSeconds 1), sent, .waited (.ofSeconds 2), sent]) := by
  rfl

/-- A range that is too wide for a floating-point number ends the attempts with the first of three. -/
theorem excessive_jitter_ends_attempts :
    let policy : Backoff := { maxAttempts := some 3, jitter := 1e308 }
    let course : Course := ⟨fun _ => .error (.rejected 503 "down"), fun _ => 0⟩
    let call : TaskCall := .report "t1" ⟨"completed", none, none, some 0⟩
    (∀ n, Settles policy course.answers n ↔ n = 2) ∧
      ∀ attempts, 0 < attempts → course.report policy call attempts = (none, [.sent call]) := by
  intro policy course call
  have hsettles : ∀ n, Settles policy course.answers n ↔ n = 2 := by
    intro n
    constructor
    · rintro (⟨task, hok⟩ | ⟨error, herror, hfinal⟩ | ⟨most, hmost, hlast⟩)
      · cases hok
      · cases herror
        cases hfinal
      · cases hmost
        omega
    · rintro rfl
      exact Or.inr (Or.inr ⟨3, rfl, rfl⟩)
  have hstuck : ¬ Backoff.CanDraw { maxAttempts := some 3, jitter := 1e308 } 0 := by
    rintro (hnone | hfinite)
    · exact absurd hnone (by decide +kernel)
    · exact absurd hfinite (by decide +kernel)
  have hreaches : course.Reaches policy 0 := fun k hk => absurd hk (Nat.not_lt_zero k)
  refine ⟨hsettles, ?_⟩
  intro attempts hpos
  exact hreaches.report_of_stuck (fun hfirst => absurd ((hsettles 0).1 hfirst) (by decide)) hstuck
    call hpos

end Muster.Agent
