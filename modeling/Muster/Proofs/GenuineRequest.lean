import Mathlib.NumberTheory.LucasLehmer
import Muster.Agent.Signer
import Muster.Auth.Authenticator
import Muster.ControlPlane.Registry
import Muster.Proofs.AgentIndex
import Muster.Proofs.KeyText
import Muster.Proofs.SignatureVerification
/-!
Genuine requests: those whose signature the key on file of their agent verifies. What an agent signs
with a key that matches the one on file is genuine, whatever its time and its nonce are, and then the
answer to it depends on these two only.
-/
namespace Muster.Auth

open Store Text Time

/-- The signature is one that the agent's key on file verifies. -/
def SignedHeaders.Genuine (signed : SignedHeaders) (agents : AgentStore) : Prop :=
  ∃ record, agents.get? signed.agentId = some record ∧ record.publicKey ≠ "" ∧
    Rsa.verifiesUnder record.publicKey (toUtf8 signed.message) signed.signature = true

theorem publicKeyOf_eq_ok_iff (agents : AgentStore) (agentId key : String) :
    agents.publicKeyOf agentId = .ok key ↔
      ∃ record, agents.get? agentId = some record ∧ record.publicKey ≠ "" ∧
        record.publicKey = key := by
  simp only [AgentStore.publicKeyOf]
  cases hrecord : agents.get? agentId with
  | none => simp
  | some record =>
      by_cases hempty : record.publicKey = "" <;> simp [hempty]

/-- What becomes of a genuine request depends on its age and its nonce only. -/
theorem SignedHeaders.Genuine.answer {signed : SignedHeaders} {agents : AgentStore}
    (hgenuine : signed.Genuine agents) (window now : Int) (nonces : NonceCache) :
    (authenticateAt AgentStore.repository window signed now agents nonces).1 =
      if window < distance64 now signed.timestamp then .error .expired
      else if nonces.isFresh signed.agentId signed.nonce now then .ok ()
      else .error .replayed := by
  obtain ⟨record, hrecord, hkey, hverifies⟩ := hgenuine
  have hfound := (publicKeyOf_eq_ok_iff agents signed.agentId _).2 ⟨record, hrecord, hkey, rfl⟩
  simp only [authenticateAt, AgentStore.repository, hfound, authenticateUnder, hverifies,
    Bool.not_true, Bool.false_eq_true, ↓reduceIte]
  by_cases hage : window < distance64 now signed.timestamp
  · simp only [if_pos hage]
  · simp only [if_neg hage]
    cases hfree : nonces.isFresh signed.agentId signed.nonce now <;>
      simp [NonceCache.checkAndInsert, hfree]

end Muster.Auth

namespace Muster.Agent

open Auth Bytes ControlPlane Rsa Store

/-- What an agent signs is genuine wherever its public key is on file. -/
theorem Signer.genuine {signer : Signer} (hmatches : signer.key.Matches)
    (hbits : HoldsSalt signer.key.publicKey.bits) {salt : List UInt8}
    (hsalt : salt.length = saltSize) {agents : AgentStore} {record : AgentRecord}
    (hrecord : agents.get? signer.agentId = some record)
    (hkey : PublicKey.decode record.publicKey = .ok signer.key.publicKey) (timestamp : Int)
    (nonce : String) : (signer.signedHeadersAt timestamp nonce salt).Genuine agents := by
  refine ⟨record, hrecord, ?_, PrivateKey.verifiesUnder_signText hmatches hbits hsalt hkey _⟩
  intro hempty
  rw [hempty, PublicKey.decode_eq_ok_iff] at hkey
  exact signer.key.publicKey.encode_ne_empty hkey.symm

/-- A key that is long enough to sign with. Its primes are powers of two less one. -/
def longKey : PrivateKey where
  publicKey := ⟨mersenne 521 * mersenne 607, 65537, by decide +kernel⟩
  secret := (1 + 10880 * ((mersenne 521 - 1) * (mersenne 607 - 1))) / 65537
  first := mersenne 521
  second := mersenne 607

theorem longKey_matches : longKey.Matches := by
  apply PrivateKey.matches_of_primes
  · exact lucas_lehmer_sufficiency 521 (by norm_num) (by norm_num)
  · exact lucas_lehmer_sufficiency 607 (by norm_num) (by norm_num)
  · decide +kernel
  · decide +kernel

theorem longKey_holdsSalt : HoldsSalt longKey.publicKey.bits := by
  rw [HoldsSalt]
  decide +kernel

/-- An agent, and a store with its key on file. -/
def keyHolder : Signer :=
  ⟨"agent-1", longKey⟩

def keyHolderRecord : AgentRecord :=
  ⟨keyHolder.agentId, "host-1", keyHolder.key.publicKey.encode, rsaKeyType, activeStatus, "tok", [],
    .epoch, .epoch, .epoch⟩

def keyHolderStore : AgentStore :=
  AgentStore.empty.putRecord keyHolderRecord

def keyHolderHeaders (timestamp : Int) : SignedHeaders :=
  keyHolder.signedHeadersAt timestamp "n1" (List.replicate saltSize 0)

theorem keyHolderHeaders_genuine (timestamp : Int) :
    (keyHolderHeaders timestamp).Genuine keyHolderStore := by
  have hrecord : keyHolderStore.get? keyHolder.agentId = some keyHolderRecord := by
    rw [keyHolderStore, AgentStore.get?_putRecord]
    exact if_pos rfl
  have hkey : PublicKey.decode keyHolderRecord.publicKey = .ok keyHolder.key.publicKey :=
    PublicKey.decode_encode _
  have hmatches : keyHolder.key.Matches := by
    rw [keyHolder]
    exact longKey_matches
  have hbits : HoldsSalt keyHolder.key.publicKey.bits := by
    rw [keyHolder]
    exact longKey_holdsSalt
  exact Signer.genuine hmatches hbits List.length_replicate hrecord hkey timestamp "n1"

end Muster.Agent
