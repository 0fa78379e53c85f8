import Muster.Store.AgentStore
import Muster.Store.TaskStore
/-!
What the control plane asks of a store, whatever keeps it: a record of operations on a state. The
stores in memory are two such repositories; others may fail where these do not.
-/
namespace Muster.Store

/-- Operations on a store of agents with states `σ`. -/
structure AgentRepository (σ : Type) where
  create : AgentRecord → σ → Except StoreError Unit × σ
  update : AgentRecord → σ → Except StoreError Unit × σ
  get : String → σ → Except StoreError (Option AgentRecord) × σ
  findByFingerprint : String → σ → Except StoreError (Option AgentRecord) × σ
  findByPublicKey : String → σ → Except StoreError (Option AgentRecord) × σ
  publicKeyOf : String → σ → Except StoreError String × σ

/-- Operations on a store of tasks with states `σ`. -/
structure TaskRepository (σ : Type) where
  create : Task → σ → Except StoreError Unit × σ
  findAll : TaskFilter → σ → Except StoreError (List Task) × σ
  findById : String → σ → Except StoreError (Option Task) × σ
  update : String → TaskUpdate → σ → Except StoreError Task × σ
  claimNext : String → σ → Except StoreError (Option Task) × σ

def AgentStore.repository : AgentRepository AgentStore where
  create record store := store.create record
  update record store := store.update record
  get agentId store := (.ok (store.get? agentId), store)
  findByFingerprint fingerprint store := (.ok (store.findByFingerprint? fingerprint), store)
  findByPublicKey publicKey store := (.ok (store.findByPublicKey? publicKey), store)
  publicKeyOf agentId store := (store.publicKeyOf agentId, store)

def TaskStore.repository : TaskRepository TaskStore where
  create task store := store.create task
  findAll filter store := (.ok (store.findAll filter), store)
  findById id store := (.ok (store.findById? id), store)
  update id update store := store.update id update
  claimNext agentId store :=
    let (task, store) := store.claimNext agentId
    (.ok task, store)

end Muster.Store
