import Muster.Proofs.ServerRun
/-!
What a caller learns that signs with no key, or with the wrong one. The checks stop at the signature,
so the answer says nothing of clock, window and nonces. It does say whether the agent that the request
names has a key on file, since an agent without one is refused in other words.
-/
namespace Muster.Auth

open Store Text

/-- The agent has a key on file. -/
def HoldsKey (agents : AgentStore) (agentId : String) : Prop :=
  ∃ record, agents.get? agentId = some record ∧ record.publicKey ≠ ""

/-- Why a request is turned away whose signature is not one of the agent that it names. -/
inductive Refusal (agents : AgentStore) (agentId : String) : AuthError → Prop
  | keyed (hholds : HoldsKey agents agentId) : Refusal agents agentId .invalidSignature
  | keyless (hnone : ¬ HoldsKey agents agentId) : Refusal agents agentId .unknownAgent

/-- The reasons are the same where both agents have a key or neither has. -/
theorem Refusal.eq_iff {agents others : AgentStore} {agentId otherId : String}
    {error other : AuthError} (hrefusal : Refusal agents agentId error)
    (hother : Refusal others otherId other) :
    error = other ↔ (HoldsKey agents agentId ↔ HoldsKey others otherId) := by
  cases hrefusal with
  | keyed hholds =>
      cases hother with
      | keyed hholds' => simp only [hholds, hholds']
      | keyless hnone' => simp only [hholds, hnone', reduceCtorEq, iff_false, not_true_eq_false]
  | keyless hnone =>
      cases hother with
      | keyed hholds' => simp only [hnone, hholds', reduceCtorEq, false_iff, not_true_eq_false]
      | keyless hnone' => simp only [hnone, hnone']

/-- A request that is not genuine is turned away at the key or at the signature, with the store and
the nonces as they were. -/
theorem authenticateAt_of_forged {agents : AgentStore} {signed : SignedHeaders}
    (hforged : ¬ signed.Genuine agents) (window now : Int) (nonces : NonceCache) :
    ∃ error, Refusal agents signed.agentId error ∧
      authenticateAt AgentStore.repository window signed now agents nonces =
        (.error error, agents, nonces) := by
  cases hkey : agents.publicKeyOf signed.agentId with
  | error error =>
      refine ⟨.unknownAgent, .keyless ?_, by simp only [authenticateAt, AgentStore.repository, hkey]⟩
      rintro ⟨record, hrecord, hheld⟩
      have hfound := (publicKeyOf_eq_ok_iff agents _ _).2 ⟨record, hrecord, hheld, rfl⟩
      rw [hkey] at hfound
      cases hfound
  | ok key =>
      obtain ⟨record, hrecord, hheld, rfl⟩ := (publicKeyOf_eq_ok_iff agents _ _).1 hkey
      have hrefused : Rsa.verifiesUnder record.publicKey (toUtf8 signed.message)
          signed.signature = false := by
        rw [← Bool.not_eq_true]
        intro hverifies
        exact hforged ⟨record, hrecord, hheld, hverifies⟩
      refine ⟨.invalidSignature, .keyed ⟨record, hrecord, hheld⟩, ?_⟩
      simp only [authenticateAt, AgentStore.repository, hkey, authenticateUnder, hrefused,
        Bool.not_false, ↓reduceIte]

theorem AuthError.message_inj {error other : AuthError} (hsame : error.message = other.message) :
    error = other := by
  revert hsame
  cases error <;> cases other <;> decide

end Muster.Auth

namespace Muster.ControlPlane

open Auth Http Store

/-- The answer to a request of some method that is turned away. -/
def denial (method : String) (error : AuthError) : Response :=
  if method = "HEAD" then (ApiError.ofAuth error).response.head else (ApiError.ofAuth error).response

/-- The answer shows the reason, unless its body is left out. -/
theorem denial_eq_iff (method : String) (error other : AuthError) :
    denial method error = denial method other ↔ method = "HEAD" ∨ error = other := by
  constructor
  · intro hsame
    by_cases hhead : method = "HEAD"
    · exact Or.inl hhead
    · right
      simp only [denial, if_neg hhead] at hsame
      have hbody : Json.Value.record [("error", .text error.message)] =
          .record [("error", .text other.message)] :=
        Body.json.inj (congrArg Response.body hsame)
      simp only [Json.Value.record.injEq, List.cons.injEq, Prod.mk.injEq, Json.Value.text.injEq,
        true_and, and_true] at hbody
      exact AuthError.message_inj hbody
  · rintro (hhead | rfl)
    · simp only [denial, if_pos hhead]
      rfl
    · rfl

theorem Service.handle_of_refused {service : Service} {request : Request} {signed : SignedHeaders}
    (hsigned : service.signed? request = some signed) {occasion : Occasion} (state : State)
    {error : AuthError}
    (hresult : authenticateAt AgentStore.repository service.window signed occasion.now.seconds
      state.agents state.nonces = (.error error, state.agents, state.nonces)) :
    service.handle occasion request state = (denial request.method error, state) := by
  have hdenied : service.passage occasion request state = (.denied error, state.nonces) := by
    rcases passage_of_signed hsigned occasion state with ⟨nonces, haccepted, -, -⟩ |
      ⟨refusal, hrefused, hpassage⟩
    · rw [haccepted] at hresult
      cases hresult
    · rw [hrefused] at hresult
      cases hresult
      exact hpassage
  rw [handle_eq, hdenied]
  rfl

/-- What the answers to a request that is not genuine tell apart: two stores of agents, by whether the
agent that the request names has a key on file, and nothing else. -/
structure TellsOfKeyAlone (signed : SignedHeaders) (agents others : AgentStore) : Prop where
  /-- Windows, clocks and nonces may differ, and are as they were. -/
  check : ∀ window now nonces window' now' nonces', ∃ error error',
    Refusal agents signed.agentId error ∧ Refusal others signed.agentId error' ∧
    authenticateAt AgentStore.repository window signed now agents nonces =
      (.error error, agents, nonces) ∧
    authenticateAt AgentStore.repository window' signed now' others nonces' =
      (.error error', others, nonces') ∧
    (error = error' ↔ (HoldsKey agents signed.agentId ↔ HoldsKey others signed.agentId))
  /-- So may tasks and all that comes with the occasion. -/
  answer : ∀ (service : Service) request, service.signed? request = some signed →
    ∀ occasion tasks nonces occasion' tasks' nonces',
    ((service.handle occasion request ⟨agents, tasks, nonces⟩).1 =
        (service.handle occasion' request ⟨others, tasks', nonces'⟩).1 ↔
      request.method = "HEAD" ∨
        (HoldsKey agents signed.agentId ↔ HoldsKey others signed.agentId))

/-- A request that is signed with no key on file tells two stores of agents apart, such as one with
the agent that it names and one without, exactly where one of them has a key of that agent. -/
theorem forged_request_tells_of_key {agents others : AgentStore} {signed : SignedHeaders}
    (hforged : ¬ signed.Genuine agents) (hother : ¬ signed.Genuine others) :
    TellsOfKeyAlone signed agents others where
  check window now nonces window' now' nonces' := by
    obtain ⟨error, hrefusal, hresult⟩ := authenticateAt_of_forged hforged window now nonces
    obtain ⟨error', hrefusal', hresult'⟩ := authenticateAt_of_forged hother window' now' nonces'
    exact ⟨error, error', hrefusal, hrefusal', hresult, hresult', hrefusal.eq_iff hrefusal'⟩
  answer service request hsigned occasion tasks nonces occasion' tasks' nonces' := by
    obtain ⟨error, hrefusal, hresult⟩ :=
      authenticateAt_of_forged hforged service.window occasion.now.seconds nonces
    obtain ⟨error', hrefusal', hresult'⟩ :=
      authenticateAt_of_forged hother service.window occasion'.now.seconds nonces'
    rw [Service.handle_of_refused hsigned ⟨agents, tasks, nonces⟩ hresult,
      Service.handle_of_refused hsigned ⟨others, tasks', nonces'⟩ hresult',
      denial_eq_iff, hrefusal.eq_iff hrefusal']

/-- An agent whose key is the smallest one there is. -/
def smallestKeyAgent : AgentRecord where
  agentId := "agent-1"
  fingerprint := "host-1"
  publicKey := "MBowDQYJKoZIhvcNAQEBBQADCQAwBgIBBQIBAw=="
  publicKeyType := rsaKeyType
  status := activeStatus
  tokenId := "tok"
  tags := []
  registeredAt := .epoch
  createdAt := .epoch
  updatedAt := .epoch

/-- Three octets that no key of this size signs. -/
def forgedHeaders : SignedHeaders :=
  ⟨smallestKeyAgent.agentId, 1700000000, "n1", "AAAA"⟩

theorem forgedHeaders_not_genuine :
    ¬ forgedHeaders.Genuine (AgentStore.empty.putRecord smallestKeyAgent) ∧
      ¬ forgedHeaders.Genuine AgentStore.empty := by
  constructor
  · rintro ⟨record, hrecord, -, hverifies⟩
    cases hrecord
    revert hverifies
    decide +kernel
  · rintro ⟨record, hrecord, -, -⟩
    cases hrecord

/-- The store with this agent and the one without it are told apart. -/
theorem forged_request_tells_of_smallest_key :
    ¬ forgedHeaders.Genuine (AgentStore.empty.putRecord smallestKeyAgent) ∧
      ¬ forgedHeaders.Genuine AgentStore.empty ∧
      TellsOfKeyAlone forgedHeaders (AgentStore.empty.putRecord smallestKeyAgent)
        AgentStore.empty := by
  obtain ⟨hforged, hother⟩ := forgedHeaders_not_genuine
  exact ⟨hforged, hother, forged_request_tells_of_key hforged hother⟩

/-- The answers to a forged request for two stores that differ in the agent alone that it names. -/
theorem forged_request_answers_differ :
    let agents := AgentStore.empty.putRecord smallestKeyAgent
    let answer := fun store => (authenticateAt AgentStore.repository 300 forgedHeaders 1700000000
      store NonceCache.empty).1
    let body := fun store : AgentStore => (Service.handle ⟨BootstrapTokens.ofTokens [], 300, false⟩
      ⟨.epoch, "agent-2", "t1"⟩ ⟨"GET", "/v1/tasks", forgedHeaders.toHeaders, []⟩
      ⟨store, TaskStore.empty, NonceCache.empty⟩).1.body.octets
    let reason := fun text => Text.toUtf8 (ErrorBody.shape.codec.writeText ⟨text⟩)
    ¬ forgedHeaders.Genuine agents ∧
      answer agents = .error .invalidSignature ∧
      answer AgentStore.empty = .error .unknownAgent ∧
      body agents = reason "invalid signature" ∧
      body AgentStore.empty = reason "authentication failed" := by
  intro agents answer body reason
  exact ⟨forgedHeaders_not_genuine.1, by decide +kernel, by decide +kernel, by decide +kernel,
    by decide +kernel⟩

end Muster.ControlPlane
