import Muster.Store.Repository
/-!
Repositories with planned outages, for studying what a failing store does to the control plane. Each
outage meets the next call of its method and is then used up.
-/
namespace Muster.Store

/-- The methods of a repository that an outage can meet. -/
inductive Method
  | create
  | update
  | publicKeyOf
  | findByFingerprint
  | findByPublicKey
  | findAll
  | findById
  | claimNext
deriving Repr, DecidableEq

/-- What an outage does: the call fails, or finds nothing. -/
inductive Outage
  | failing (error : StoreError)
  | findingNothing
deriving Repr, DecidableEq

/-- Outages that are still to come, in order. -/
abbrev Outages := List (Method × Outage)

/-- The next outage of a method, and those that remain behind it. -/
def Outages.take (outages : Outages) (method : Method) : Option (Outage × Outages) :=
  match outages with
  | [] => none
  | (m, outage) :: rest =>
      if m = method then some (outage, rest)
      else (Outages.take rest method).map fun (found, rest) => (found, (m, outage) :: rest)

/-- The error that an outage ends a call with that has to find something. -/
def Outage.error : Outage → StoreError
  | .failing error => error
  | .findingNothing => .notFound

/-- The result of a call that may find nothing. -/
def Outage.result {α : Type} (nothing : α) : Outage → Except StoreError α
  | .failing error => .error error
  | .findingNothing => .ok nothing

/-- A call that an outage may meet. -/
def interrupted {σ α : Type} (method : Method) (met : Outage → Except StoreError α)
    (call : σ → Except StoreError α × σ) (state : σ × Outages) :
    Except StoreError α × (σ × Outages) :=
  match Outages.take state.2 method with
  | some (outage, rest) => (met outage, (state.1, rest))
  | none =>
      let (result, inner) := call state.1
      (result, (inner, state.2))

def AgentRepository.withOutages {σ : Type} (repository : AgentRepository σ) :
    AgentRepository (σ × Outages) where
  create record := interrupted .create (.error ·.error) (repository.create record)
  update record := interrupted .update (.error ·.error) (repository.update record)
  get agentId state :=
    let (result, inner) := repository.get agentId state.1
    (result, (inner, state.2))
  findByFingerprint fingerprint :=
    interrupted .findByFingerprint (·.result none) (repository.findByFingerprint fingerprint)
  findByPublicKey publicKey :=
    interrupted .findByPublicKey (·.result none) (repository.findByPublicKey publicKey)
  publicKeyOf agentId :=
    interrupted .publicKeyOf (.error ·.error) (repository.publicKeyOf agentId)

def TaskRepository.withOutages {σ : Type} (repository : TaskRepository σ) :
    TaskRepository (σ × Outages) where
  create task := interrupted .create (.error ·.error) (repository.create task)
  findAll filter := interrupted .findAll (·.result []) (repository.findAll filter)
  findById id := interrupted .findById (·.result none) (repository.findById id)
  update id update := interrupted .update (.error ·.error) (repository.update id update)
  claimNext agentId := interrupted .claimNext (·.result none) (repository.claimNext agentId)

end Muster.Store
