import Muster.Proofs.GenuineRequest
import Muster.Proofs.HeaderReading
import Muster.Proofs.RegistrationDecision
/-!
A request that an agent signs is read as it was signed and let in, unless it comes at the wrong time
or for the second time: text and number of the time, the fields between other ones, the message that
is built again from what was read, and the signature all agree.
-/
namespace Muster.Agent

open Auth Bytes ControlPlane Http Rsa Store Text Time

/-- What an agent with a matching key that is long enough signs can be sent. -/
theorem Signer.sendable {signer : Signer} (hid : FieldText signer.agentId)
    (hmatches : signer.key.Matches) (hbits : HoldsSalt signer.key.publicKey.bits)
    {salt : List UInt8} (hsalt : salt.length = saltSize) {timestamp : Int}
    (htime : bounds64.holds timestamp = true) {nonce : String} (hnonce : FieldText nonce) :
    (signer.signedHeadersAt timestamp nonce salt).Sendable where
  agentId := hid
  timestamp := htime
  nonce := hnonce
  signature := ⟨PrivateKey.signText_ne_empty hmatches hbits hsalt _,
    PrivateKey.signText_visible signer.key salt _⟩

/-- Whatever agent has registered, a request that it signs at any time with any nonce of its own is
read as it was signed, and then let in or refused for its age or its nonce. -/
theorem signed_request_accepted {ι : Type} [DecidableEq ι] (tokens : BootstrapTokens)
    {calls : ι → RegisterCall} (hfresh : Function.Injective fun i => (calls i).agentId)
    (hids : ∀ i, AgentIdForm (calls i).agentId) (schedule : List (ι × Instant))
    {signer : Signer} {record : AgentRecord}
    (hrecord : (Race.run tokens calls schedule).agents.get? signer.agentId = some record)
    (hkey : PublicKey.decode record.publicKey = .ok signer.key.publicKey)
    (hmatches : signer.key.Matches) (hbits : HoldsSalt signer.key.publicKey.bits)
    {salt : List UInt8} (hsalt : salt.length = saltSize) {timestamp : Int}
    (htime : bounds64.holds timestamp = true) {octets : List UInt8} (hoctets : octets.length = 16) :
    let signed := signer.signedHeadersAt timestamp (Uuid.simpleText octets) salt
    (∀ before behind : Headers, (∀ field ∈ before, lowerName field.1 ∉ signatureFields) →
      SignedHeaders.ofHeaders (before ++ signed.toHeaders ++ behind) = .ok signed) ∧
    ∀ window now nonces,
      let answer := (authenticateAt AgentStore.repository window signed now
        (Race.run tokens calls schedule).agents nonces).1
      answer = .ok () ∨ answer = .error .expired ∨ answer = .error .replayed := by
  intro signed
  have hid : AgentIdForm signer.agentId := by
    obtain ⟨i, hi, _⟩ := (Race.run_invariant tokens hfresh schedule).creators signer.agentId
      (by simp [hrecord])
    exact hi ▸ hids i
  have hsendable : signed.Sendable :=
    Signer.sendable hid.fieldText hmatches hbits hsalt htime (fieldText_simpleText hoctets)
  have hgenuine : signed.Genuine (Race.run tokens calls schedule).agents :=
    Signer.genuine hmatches hbits hsalt hrecord hkey timestamp _
  refine ⟨fun before behind hbefore => hsendable.ofHeaders hbefore behind, ?_⟩
  intro window now nonces answer
  have hanswer := hgenuine.answer window now nonces
  split at hanswer
  · exact Or.inr (Or.inl hanswer)
  · split at hanswer
    · exact Or.inl hanswer
    · exact Or.inr (Or.inr hanswer)

/-- The first agent of all signs at the first second of all. -/
theorem signed_request_accepted_of_first :
    let signer : Signer := ⟨"agent-" ++ Uuid.text (List.replicate 16 0), longKey⟩
    let request : RegistrationRequest :=
      ⟨"host-1", "tok", "secret", longKey.publicKey.encode, rsaKeyType, []⟩
    let calls : Unit → RegisterCall := fun _ => ⟨request, signer.agentId⟩
    let tokens := BootstrapTokens.ofTokens [⟨"tok", "secret"⟩]
    let agents := (Race.run tokens calls (List.replicate mostCalls ((), Instant.epoch))).agents
    let signed := signer.signedHeadersAt (-9223372036854775808)
      (Uuid.simpleText (List.replicate 16 255)) (List.replicate 32 0)
    (∃ record, agents.get? signer.agentId = some record ∧
      PublicKey.decode record.publicKey = .ok signer.key.publicKey) ∧
    SignedHeaders.ofHeaders signed.toHeaders = .ok signed ∧
    ∀ window now nonces,
      let answer := (authenticateAt AgentStore.repository window signed now agents nonces).1
      answer = .ok () ∨ answer = .error .expired ∨ answer = .error .replayed := by
  intro signer request calls tokens agents signed
  have hfresh : Function.Injective fun i => (calls i).agentId := fun _ _ _ => rfl
  have hids : ∀ i, AgentIdForm (calls i).agentId := fun _ => ⟨_, List.length_replicate, rfl⟩
  have hkey := longKey.publicKey.decode_encode
  have hrequest : WellFormed request :=
    ⟨by decide, by decide, by decide, by decide, rfl,
      ⟨longKey.publicKey.encode_ne_empty, _, hkey⟩, by simp [request]⟩
  have htoken : tokens.verify "tok" "secret" = true := BootstrapTokens.verify_ofTokens [] _
  have hrecord : agents.get? signer.agentId =
      some ((calls ()).admission.newRecord signer.agentId Instant.epoch) :=
    Race.run_first tokens hfresh hrequest htoken Instant.epoch
  have hstored : PublicKey.decode
      ((calls ()).admission.newRecord signer.agentId Instant.epoch).publicKey =
        .ok longKey.publicKey := by
    change PublicKey.decode (trim longKey.publicKey.encode) = .ok longKey.publicKey
    rw [longKey.publicKey.trim_encode, hkey]
  obtain ⟨hread, hanswer⟩ := signed_request_accepted tokens hfresh hids _ hrecord hstored
    longKey_matches longKey_holdsSalt (List.length_replicate (n := 32) (a := 0))
    (by decide : bounds64.holds (-9223372036854775808) = true)
    (List.length_replicate (n := 16) (a := 255))
  have halone := hread [] [] fun field hfield => absurd hfield List.not_mem_nil
  rw [List.nil_append, List.append_nil] at halone
  exact ⟨⟨_, hrecord, hstored⟩, halone, hanswer⟩

end Muster.Agent
