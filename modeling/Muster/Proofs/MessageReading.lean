import Muster.Proofs.HeaderReading
/-!
The message that is signed determines the agent, the time and the nonce, although they are joined by
nothing but bars and the nonce may hold bars of its own: neither the ids of agents nor the digits of
a time hold one, so that the first two bars are the ones that were put there.
-/
namespace Muster.Text

/-- What stands in front of the first separator, and what stands behind it. -/
theorem append_separator_inj {separator : Char} {first other rest left : List Char}
    (hfirst : separator ∉ first) (hother : separator ∉ other)
    (hsame : first ++ separator :: rest = other ++ separator :: left) :
    first = other ∧ rest = left := by
  induction first generalizing other with
  | nil =>
      cases other with
      | nil => exact ⟨rfl, (List.cons.inj hsame).2⟩
      | cons c other =>
          have hc := (List.cons.inj hsame).1
          exact absurd (hc ▸ List.mem_cons_self) hother
  | cons c first ih =>
      cases other with
      | nil =>
          have hc := (List.cons.inj hsame).1
          exact absurd (hc ▸ List.mem_cons_self) hfirst
      | cons d other =>
          obtain ⟨rfl, htails⟩ := List.cons.inj hsame
          rw [List.mem_cons, not_or] at hfirst hother
          obtain ⟨rfl, hrest⟩ := ih hfirst.2 hother.2 htails
          exact ⟨rfl, hrest⟩

/-- A number is written with digits and a minus sign. -/
theorem bar_not_mem_ofInt (n : Int) : '|' ∉ (ofInt n).toList := by
  intro hbar
  rw [toList_ofInt, List.mem_append] at hbar
  rcases hbar with hsign | hdigit
  · split at hsign
    · cases List.mem_singleton.1 hsign
    · cases hsign
  · exact absurd (isDigit_of_mem_natDigits n.natAbs '|' hdigit) (by decide)

theorem toUtf8_injective : Function.Injective toUtf8 := by
  intro text other hsame
  have hglyphs : text.toList.map some = other.toList.map some := by
    rw [← glyphs_toUtf8, ← glyphs_toUtf8, hsame]
  have hchars := (List.map_inj_right fun _ _ => Option.some.inj).1 hglyphs
  exact String.toList_inj.1 hchars

end Muster.Text

namespace Muster.Auth

open Muster.Text

theorem AgentIdForm.bar_not_mem {id : String} (hid : AgentIdForm id) : '|' ∉ id.toList := by
  have hother : ∀ c ∈ id.toList, c ≠ '|' := hid.forall (by decide) (by decide) (by decide)
  exact fun hbar => hother '|' hbar rfl

theorem toList_signedMessage (agentId : String) (timestamp : Int) (nonce : String) :
    (signedMessage agentId timestamp nonce).toList =
      agentId.toList ++ '|' :: ((ofInt timestamp).toList ++ '|' :: nonce.toList) := by
  simp [signedMessage]

theorem signedMessage_inj {agentId otherId : String} (hid : '|' ∉ agentId.toList)
    (hother : '|' ∉ otherId.toList) {timestamp otherTime : Int} {nonce otherNonce : String}
    (hsame : signedMessage agentId timestamp nonce = signedMessage otherId otherTime otherNonce) :
    agentId = otherId ∧ timestamp = otherTime ∧ nonce = otherNonce := by
  have hchars := congrArg String.toList hsame
  rw [toList_signedMessage, toList_signedMessage] at hchars
  obtain ⟨hagent, hrest⟩ := append_separator_inj hid hother hchars
  obtain ⟨htime, hnonce⟩ :=
    append_separator_inj (bar_not_mem_ofInt timestamp) (bar_not_mem_ofInt otherTime) hrest
  exact ⟨String.toList_inj.1 hagent, ofInt_injective (String.toList_inj.1 htime),
    String.toList_inj.1 hnonce⟩

/-- Two requests of agents have one message, or one sequence of octets to be signed, only if they are
of one agent, of one time and with one nonce. -/
theorem signedMessage_unambiguous {agentId otherId : String} (hid : AgentIdForm agentId)
    (hother : AgentIdForm otherId) (timestamp otherTime : Int) (nonce otherNonce : String) :
    (signedMessage agentId timestamp nonce = signedMessage otherId otherTime otherNonce ↔
      agentId = otherId ∧ timestamp = otherTime ∧ nonce = otherNonce) ∧
    (toUtf8 (signedMessage agentId timestamp nonce) =
        toUtf8 (signedMessage otherId otherTime otherNonce) ↔
      agentId = otherId ∧ timestamp = otherTime ∧ nonce = otherNonce) := by
  have hmessage : signedMessage agentId timestamp nonce =
      signedMessage otherId otherTime otherNonce ↔
        agentId = otherId ∧ timestamp = otherTime ∧ nonce = otherNonce := by
    constructor
    · exact signedMessage_inj hid.bar_not_mem hother.bar_not_mem
    · rintro ⟨rfl, rfl, rfl⟩
      rfl
  exact ⟨hmessage, toUtf8_injective.eq_iff.trans hmessage⟩

/-- Ids with bars would not do. -/
example : signedMessage "a|1" 2 "n" = signedMessage "a" 1 "2|n" := by decide

/-- A nonce with a bar and a digit, which the time of the other request ends with. -/
theorem signedMessage_unambiguous_of_bars :
    let agentId := "agent-" ++ Bytes.Uuid.text (List.replicate 16 0)
    let otherId := "agent-" ++ Bytes.Uuid.text (List.replicate 16 255)
    AgentIdForm agentId ∧ AgentIdForm otherId ∧
      signedMessage agentId 1 "2|n" ≠ signedMessage otherId 1 "2|n" ∧
      signedMessage agentId 1 "2|n" ≠ signedMessage agentId 12 "|n" := by
  intro agentId otherId
  have hid : AgentIdForm agentId := ⟨_, by decide, rfl⟩
  have hother : AgentIdForm otherId := ⟨_, by decide, rfl⟩
  refine ⟨hid, hother, ?_, ?_⟩
  · intro hsame
    have hagent := ((signedMessage_unambiguous hid hother 1 1 "2|n" "2|n").1.1 hsame).1
    exact absurd hagent (by decide)
  · intro hsame
    have htime := ((signedMessage_unambiguous hid hid 1 12 "2|n" "|n").1.1 hsame).2.1
    exact absurd htime (by decide)

end Muster.Auth
