import Muster.Proofs.KeyText
import Muster.Proofs.RacingRegistrations
/-!
No two agents share a public key, not even one that came in two different texts. The store compares
texts only; this is enough because every text that it holds is the one text of its key.
-/
namespace Muster.ControlPlane

open Auth Store Text Time

/-- The text is the one that is written for some key. -/
def IsKeyText (text : String) : Prop :=
  ∃ key : Rsa.PublicKey, text = key.encode

/-- A key that is read from the text of a key is the key of this text. -/
theorem IsKeyText.eq_encode {text : String} (htext : IsKeyText text) {key : Rsa.PublicKey}
    (hkey : Rsa.PublicKey.decode text = .ok key) : text = key.encode := by
  obtain ⟨own, rfl⟩ := htext
  rw [own.decode_encode] at hkey
  cases hkey
  rfl

/-- A registration that is let in works with the text of a key, whatever blanks were sent around it. -/
theorem WellFormed.isKeyText {request : RegistrationRequest} (hrequest : WellFormed request) :
    IsKeyText (admissionOf request).publicKey := by
  obtain ⟨_, key, hkey⟩ := hrequest.publicKey
  exact ⟨key, Rsa.PublicKey.decode_eq_ok_iff.1 hkey⟩

/-- Texts of keys are all that the store holds and all that the registration can bring to it. -/
structure Keyed (admission : Admission) (store : AgentStore) (stage : RegistrationStage) : Prop where
  stored : ∀ id record, store.get? id = some record → IsKeyText record.publicKey
  admitted : (∀ result, stage ≠ .over result) → IsKeyText admission.publicKey
  pending : ∀ record, stage = .create record ∨ stage = .update record →
    record.publicKey = admission.publicKey

section Step

variable {admission : Admission} {agentId : String} {now : Instant} {store next : AgentStore}
  {stage after : RegistrationStage}

theorem Advance.keyed (hstep : Advance admission agentId now store stage after next)
    (hbefore : Keyed admission store stage) : Keyed admission next after := by
  have hstored := hbefore.stored
  -- what is written has the key that was asked for, and that one was let in
  have hwritten : ∀ record, stage = .create record ∨ stage = .update record →
      IsKeyText record.publicKey := by
    intro record hstage
    rw [hbefore.pending record hstage]
    refine hbefore.admitted ?_
    rintro result rfl
    simp at hstage
  cases hstep with
  | keyPassed hown => exact ⟨hstored, fun _ => hbefore.admitted (by simp), by simp⟩
  | lost record holder hheld => exact ⟨hstored, fun _ => hbefore.admitted (by simp), by simp⟩
  | unknown hnone =>
      refine ⟨hstored, fun _ => hbefore.admitted (by simp), ?_⟩
      rintro record (hnew | hnew)
      · cases hnew
        rfl
      · cases hnew
  | known stage record hstage hfound =>
      refine ⟨hstored, fun _ => hbefore.admitted ?_, ?_⟩
      · rcases hstage with rfl | rfl <;> simp
      · intro later hlater
        rw [Admission.eq_refreshed_of_pending hlater]
        rfl
  | created record next hfingerprint hkey hadded =>
      exact ⟨forall_of_inserted hstored (hwritten record (Or.inl rfl)) hadded.get, by simp, by simp⟩
  | updated record previous next hprevious hown hreplaced =>
      exact ⟨forall_of_inserted hstored (hwritten record (Or.inr rfl)) hreplaced.get, by simp,
        by simp⟩
  | settled result => exact hbefore
  | _ => exact ⟨hstored, by simp [fail], by simp [fail]⟩

end Step

section Run

variable {ι : Type} [DecidableEq ι] {calls : ι → RegisterCall}

theorem Race.run_keyed (tokens : BootstrapTokens)
    (hfresh : Function.Injective fun i => (calls i).agentId) (schedule : List (ι × Instant))
    (i : ι) :
    Keyed (calls i).admission (Race.run tokens calls schedule).agents
      ((Race.run tokens calls schedule).stage i) := by
  induction schedule using List.reverseRecOn generalizing i with
  | nil =>
      have hempty : ∀ id record, (Race.run tokens calls []).agents.get? id = some record →
          IsKeyText record.publicKey := by
        intro id record hrecord
        cases hrecord
      rw [Race.run, List.foldl_nil] at hempty ⊢
      rcases Race.start_stage_cases tokens calls i with ⟨hstage, hrequest⟩ | ⟨error, hstage, _⟩
      · exact ⟨hempty, fun _ => hrequest.isKeyText, by simp [hstage]⟩
      · exact ⟨hempty, fun hopen => absurd hstage (hopen _), by simp [hstage]⟩
  | append_singleton schedule move ih =>
      obtain ⟨mover, now⟩ := move
      obtain ⟨after, next, hstep, hadvance⟩ :=
        (Race.run_invariant tokens hfresh schedule).advance mover now
      have hafter := hadvance.keyed (ih mover)
      rw [Race.run_append, hstep]
      by_cases hmover : i = mover
      · subst hmover
        simpa using hafter
      · have hother := ih i
        exact ⟨hafter.stored, by simpa [hmover] using hother.admitted,
          by simpa [hmover] using hother.pending⟩

theorem Race.run_isKeyText (tokens : BootstrapTokens)
    (hfresh : Function.Injective fun i => (calls i).agentId) (schedule : List (ι × Instant))
    (id : String) (record : AgentRecord)
    (hrecord : (Race.run tokens calls schedule).agents.get? id = some record) :
    IsKeyText record.publicKey := by
  have hrace := Race.run_invariant tokens hfresh schedule
  obtain ⟨i, _⟩ := hrace.creators id (by simp [hrecord])
  exact (Race.run_keyed tokens hfresh schedule i).stored id record hrecord

/-- A key has one text: reading undoes writing, and a text that is read as a key is, blanks at its
ends apart, what is written for the key. Hence at every moment of any registrations every agent has
a key, and no other agent has the same one, whatever texts it came in. -/
theorem key_identifies_agent (tokens : BootstrapTokens)
    (hfresh : Function.Injective fun i => (calls i).agentId) (schedule : List (ι × Instant)) :
    (∀ key : Rsa.PublicKey, Rsa.PublicKey.decode key.encode = .ok key) ∧
    (∀ text key, Rsa.PublicKey.decode text = .ok key → key.encode = trim text) ∧
    (∀ id record, (Race.run tokens calls schedule).agents.get? id = some record →
      ∃ key, Rsa.PublicKey.decode record.publicKey = .ok key) ∧
    ∀ id other record rival key,
      (Race.run tokens calls schedule).agents.get? id = some record →
      (Race.run tokens calls schedule).agents.get? other = some rival →
      Rsa.PublicKey.decode record.publicKey = .ok key →
      Rsa.PublicKey.decode rival.publicKey = .ok key → id = other := by
  have hrace := Race.run_invariant tokens hfresh schedule
  have hstored := Race.run_isKeyText tokens hfresh schedule
  refine ⟨Rsa.PublicKey.decode_encode, ?_, ?_, ?_⟩
  · intro text key hkey
    exact (Rsa.PublicKey.decode_eq_ok_iff.1 hkey).symm
  · intro id record hrecord
    obtain ⟨key, hkey⟩ := hstored id record hrecord
    exact ⟨key, hkey ▸ key.decode_encode⟩
  · intro id other record rival key hrecord hrival hkey hsame
    -- both texts are the text of the key, so that the index of the texts has one holder for them
    have htext : record.publicKey = rival.publicKey := by
      rw [(hstored id record hrecord).eq_encode hkey, (hstored other rival hrival).eq_encode hsame]
    exact hrace.indexed.keys.unique hrecord hrival htext (hrace.records id record hrecord).publicKey

/-- Two hosts that come with one key, one of them with blanks around its text, and move in turn. -/
theorem key_identifies_agent_of_blanks :
    let calls : Bool → RegisterCall := fun i =>
      if i then
        ⟨⟨"host-1", "tok", "secret", "MBowDQYJKoZIhvcNAQEBBQADCQAwBgIBBQIBAw==", "rsa", []⟩, "agent-1"⟩
      else
        ⟨⟨"host-2", "tok", "secret", " MBowDQYJKoZIhvcNAQEBBQADCQAwBgIBBQIBAw==\n", "rsa", []⟩,
          "agent-2"⟩
    let tokens := BootstrapTokens.ofTokens [⟨"tok", "secret"⟩]
    let schedule := [true, false, true, false, true, false].map fun i => (i, Instant.epoch)
    (Function.Injective fun i => (calls i).agentId) ∧
      ∀ id other record rival key,
        (Race.run tokens calls schedule).agents.get? id = some record →
        (Race.run tokens calls schedule).agents.get? other = some rival →
        Rsa.PublicKey.decode record.publicKey = .ok key →
        Rsa.PublicKey.decode rival.publicKey = .ok key → id = other := by
  intro calls tokens schedule
  have hfresh : Function.Injective fun i => (calls i).agentId := by
    intro i j hsame
    cases i <;> cases j <;> simp_all [calls]
  exact ⟨hfresh, (key_identifies_agent tokens hfresh schedule).2.2.2⟩

end Run

end Muster.ControlPlane
