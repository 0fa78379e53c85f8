import Muster.Store.Error
import Muster.Store.Table
import Muster.Wire.AgentRecord
/-!
The store of registered agents: records by agent id, and two indexes, by fingerprint and by public
key. A fingerprint belongs to one agent and so does every key that is not empty. An update happens in
three steps, each of which sees the store as others have left it: reading the key that the agent
had, writing the record together with the slot of its new key, and releasing the former key.
-/
namespace Muster.Store

/-- Agents by id, and agent ids by fingerprint and by public key. -/
structure AgentStore where
  records : Table String AgentRecord
  byFingerprint : Table String String
  byPublicKey : Table String String

def AgentStore.empty : AgentStore :=
  ⟨Table.empty, Table.empty, Table.empty⟩

instance : Inhabited AgentStore := ⟨AgentStore.empty⟩

def AgentStore.count (store : AgentStore) : Nat :=
  store.records.size

def AgentStore.get? (store : AgentStore) (agentId : String) : Option AgentRecord :=
  store.records.get? agentId

def AgentStore.findByFingerprint? (store : AgentStore) (fingerprint : String) :
    Option AgentRecord :=
  (store.byFingerprint.get? fingerprint).bind store.get?

def AgentStore.findByPublicKey? (store : AgentStore) (publicKey : String) : Option AgentRecord :=
  (store.byPublicKey.get? publicKey).bind store.get?

/-- The public key of an agent. An agent without a key on file counts as unknown. -/
def AgentStore.publicKeyOf (store : AgentStore) (agentId : String) : Except StoreError String :=
  match store.get? agentId with
  | none => .error .notFound
  | some record => if record.publicKey.isEmpty then .error .notFound else .ok record.publicKey

def AgentStore.putRecord (store : AgentStore) (record : AgentRecord) : AgentStore :=
  { store with records := store.records.insert record.agentId record }

/-- The store with the slot of a key taken by an agent. -/
def AgentStore.takeKey (store : AgentStore) (publicKey agentId : String) : AgentStore :=
  { store with byPublicKey := store.byPublicKey.insert publicKey agentId }

/-- The store with a new agent. The fingerprint must be free, and then the key, unless empty. -/
def AgentStore.create (store : AgentStore) (record : AgentRecord) :
    Except StoreError Unit × AgentStore :=
  let index (store : AgentStore) : AgentStore :=
    { store with byFingerprint := store.byFingerprint.insert record.fingerprint record.agentId }
  if store.byFingerprint.contains record.fingerprint then (.error .alreadyExists, store)
  else if record.publicKey.isEmpty then (.ok (), index (store.putRecord record))
  else match store.byPublicKey.get? record.publicKey with
    | some holder => (.error (.keyInUse holder), store)
    | none => (.ok (), index ((store.putRecord record).takeKey record.publicKey record.agentId))

/-- How far an update has come: nothing done, the former key known, the record written, or over. -/
inductive UpdateStage
  | start
  | keyKnown (previous : String)
  | written (previous : String)
  | over (result : Except StoreError Unit)

/-- The first step: the key that the agent has so far. -/
def AgentStore.readPreviousKey (store : AgentStore) (record : AgentRecord) : UpdateStage :=
  match store.get? record.agentId with
  | none => .over (.error .notFound)
  | some previous => .keyKnown previous.publicKey

/-- The record in place of the one that the agent has. -/
def AgentStore.replace (store : AgentStore) (record : AgentRecord) (previous : String) :
    UpdateStage × AgentStore :=
  if store.records.contains record.agentId then (.written previous, store.putRecord record)
  else (.over (.error .notFound), store)

/-- The second step: the record is written. A new key must be free or the agent's own, and its slot
is taken with the writing. -/
def AgentStore.writeRecord (store : AgentStore) (record : AgentRecord) (previous : String) :
    UpdateStage × AgentStore :=
  if record.publicKey = previous ∨ record.publicKey.isEmpty then store.replace record previous
  else match store.byPublicKey.get? record.publicKey with
    | some holder =>
        if holder = record.agentId then store.replace record previous
        else (.over (.error (.keyInUse holder)), store)
    | none =>
        match store.replace record previous with
        | (.written previous, store) =>
            (.written previous, store.takeKey record.publicKey record.agentId)
        | refused => refused

/-- The third step: the former key is free again, if the agent still has its slot. -/
def AgentStore.releaseKey (store : AgentStore) (record : AgentRecord) (previous : String) :
    AgentStore :=
  if previous ≠ record.publicKey ∧ !previous.isEmpty ∧
      store.byPublicKey.get? previous = some record.agentId then
    { store with byPublicKey := store.byPublicKey.erase previous }
  else store

def AgentStore.updateStep (record : AgentRecord) (stage : UpdateStage) (store : AgentStore) :
    UpdateStage × AgentStore :=
  match stage with
  | .start => (store.readPreviousKey record, store)
  | .keyKnown previous => store.writeRecord record previous
  | .written previous => (.over (.ok ()), store.releaseKey record previous)
  | .over result => (.over result, store)

/-- An update that nothing comes between. -/
def AgentStore.update (store : AgentStore) (record : AgentRecord) :
    Except StoreError Unit × AgentStore :=
  match store.readPreviousKey record with
  | .keyKnown previous =>
      match store.writeRecord record previous with
      | (.written previous, store) => (.ok (), store.releaseKey record previous)
      | (.over result, store) => (result, store)
      | (_, store) => (.ok (), store)
  | .over result => (result, store)
  | _ => (.ok (), store)

end Muster.Store
