import Muster.Auth.Bootstrap
import Muster.ControlPlane.Validation
import Muster.Store.Repository
/-!
Registration of agents. A fingerprint that is not known yet gets a new record; a known one keeps its
record and id and replaces key and tags, provided the bootstrap token is the one that it was
registered with. No key is ever given to a second agent.

A registration is a small machine: at every stage it makes one call to the repository, and the answer
leads to the next stage. So it can be run at once, or with others in between.
-/
namespace Muster.ControlPlane

open Muster.Auth Muster.Store Muster.Text Muster.Time

/-- Why two registrations exclude each other. -/
inductive DuplicateCause
  | keyTaken
  | otherToken (fingerprint : String)
  | other (detail : String)
deriving Repr, DecidableEq

/-- The words for registrations that exclude each other. -/
def DuplicateCause.message : DuplicateCause → String
  | .keyTaken => "public key is already registered to another agent"
  | .otherToken fingerprint =>
      "fingerprint " ++ fingerprint ++ " is registered under a different bootstrap token"
  | .other detail => detail

/-- Why a registration fails. -/
inductive RegistryError
  | validation (violations : List Violation)
  | invalidToken
  | duplicateAgent (cause : DuplicateCause)
  | store (error : StoreError)
deriving Repr, DecidableEq

def RegistryError.message : RegistryError → String
  | .validation violations => violationsText violations
  | .invalidToken => "invalid bootstrap token"
  | .duplicateAgent cause => "duplicate agent: " ++ cause.message
  | .store error => error.message

/-- The status of every agent in the store. -/
def activeStatus : String := "active"

/-- What a registration that has been let in works with: the request, and its fingerprint and key
without blanks at their ends. -/
structure Admission where
  request : RegistrationRequest
  fingerprint : String
  publicKey : String
deriving Repr, DecidableEq

/-- Lets a registration in: all its fields must be right, and its token known. -/
def Admission.ofRequest (tokens : BootstrapTokens) (request : RegistrationRequest) :
    Except RegistryError Admission :=
  match validateRegistration request with
  | .error violations => .error (.validation violations)
  | .ok () =>
      if tokens.verify request.tokenId request.tokenKey then
        .ok ⟨request, trim request.fingerprint, trim request.publicKey⟩
      else .error .invalidToken

def Admission.newRecord (admission : Admission) (agentId : String) (now : Instant) :
    AgentRecord where
  agentId := agentId
  fingerprint := admission.fingerprint
  publicKey := admission.publicKey
  publicKeyType := admission.request.publicKeyType
  status := activeStatus
  tokenId := admission.request.tokenId
  tags := admission.request.tags
  registeredAt := now
  createdAt := now
  updatedAt := now

/-- A time later than the previous one, and the present if that is later. -/
def laterThan (previous now : Instant) : Instant :=
  if previous < now then now else previous.microsecondLater

/-- The record of a known agent that registers again. -/
def Admission.refreshed (admission : Admission) (record : AgentRecord) (now : Instant) :
    AgentRecord :=
  { record with
    publicKey := admission.publicKey
    publicKeyType := admission.request.publicKeyType
    tags := admission.request.tags
    status := activeStatus
    updatedAt := laterThan record.updatedAt now }

/-- A call of a registration to the repository. -/
inductive AgentCall
  | findByPublicKey (publicKey : String)
  | findByFingerprint (fingerprint : String)
  | create (record : AgentRecord)
  | update (record : AgentRecord)
deriving DecidableEq

/-- An answer of the repository. -/
inductive AgentReply
  | found (record : Option AgentRecord)
  | written
  | refused (error : StoreError)
deriving DecidableEq

/-- How far a registration has come: which call is next, or how it ended. -/
inductive RegistrationStage
  | checkKey
  | checkFingerprint
  | create (record : AgentRecord)
  | findWinner
  | update (record : AgentRecord)
  | over (result : Except RegistryError AgentRecord)

def RegistrationStage.call? (admission : Admission) : RegistrationStage → Option AgentCall
  | .checkKey => some (.findByPublicKey admission.publicKey)
  | .checkFingerprint => some (.findByFingerprint admission.fingerprint)
  | .create record => some (.create record)
  | .findWinner => some (.findByFingerprint admission.fingerprint)
  | .update record => some (.update record)
  | .over _ => none

def fail (error : RegistryError) : RegistrationStage :=
  .over (.error error)

/-- What is left to do for a fingerprint that is known: the record is refreshed if the token is the
one it was registered with. -/
def Admission.refresh (admission : Admission) (record : AgentRecord) (now : Instant) :
    RegistrationStage :=
  if record.tokenId ≠ admission.request.tokenId then
    fail (.duplicateAgent (.otherToken record.fingerprint))
  else .update (admission.refreshed record now)

/-- The stage behind an answer. A key that another fingerprint holds ends the registration. A
fingerprint that was free and is taken when the record is created has been registered in between, and
is refreshed like any known one. -/
def Admission.next (admission : Admission) (agentId : String) (now : Instant) :
    RegistrationStage → AgentReply → RegistrationStage
  | .checkKey, .found (some holder) =>
      if holder.fingerprint ≠ admission.fingerprint then fail (.duplicateAgent .keyTaken)
      else .checkFingerprint
  | .checkKey, .found none => .checkFingerprint
  | .checkFingerprint, .found (some record) => admission.refresh record now
  | .checkFingerprint, .found none => .create (admission.newRecord agentId now)
  | .create record, .written => .over (.ok record)
  | .create _, .refused (.keyInUse _) => fail (.duplicateAgent .keyTaken)
  | .create _, .refused .alreadyExists => .findWinner
  | .findWinner, .found (some record) => admission.refresh record now
  | .findWinner, .found none => fail (.store .notFound)
  | .update record, .written => .over (.ok record)
  | .update _, .refused (.keyInUse _) => fail (.duplicateAgent .keyTaken)
  | .over result, _ => .over result
  | _, .refused error => fail (.store error)
  | stage, _ => stage

def foundReply : Except StoreError (Option AgentRecord) → AgentReply
  | .ok record => .found record
  | .error error => .refused error

def writtenReply : Except StoreError Unit → AgentReply
  | .ok () => .written
  | .error error => .refused error

def perform {σ : Type} (repository : AgentRepository σ) (call : AgentCall) (agents : σ) :
    AgentReply × σ :=
  match call with
  | .findByPublicKey publicKey =>
      let (found, agents) := repository.findByPublicKey publicKey agents
      (foundReply found, agents)
  | .findByFingerprint fingerprint =>
      let (found, agents) := repository.findByFingerprint fingerprint agents
      (foundReply found, agents)
  | .create record =>
      let (result, agents) := repository.create record agents
      (writtenReply result, agents)
  | .update record =>
      let (result, agents) := repository.update record agents
      (writtenReply result, agents)

/-- One step of a registration: the call of its stage, and the stage behind the answer. -/
def registrationStep {σ : Type} (repository : AgentRepository σ) (admission : Admission)
    (agentId : String) (now : Instant) (stage : RegistrationStage) (agents : σ) :
    RegistrationStage × σ :=
  match stage.call? admission with
  | none => (stage, agents)
  | some call =>
      let (reply, agents) := perform repository call agents
      (admission.next agentId now stage reply, agents)

/-- At most so many steps of a registration, one behind the other. -/
def runRegistration {σ : Type} (repository : AgentRepository σ) (admission : Admission)
    (agentId : String) (now : Instant) : Nat → RegistrationStage → σ → RegistrationStage × σ
  | 0, stage, agents => (stage, agents)
  | steps + 1, stage, agents =>
      let (stage, agents) := registrationStep repository admission agentId now stage agents
      runRegistration repository admission agentId now steps stage agents

/-- The most calls that a registration makes: two lookups, a lost creation, one more lookup and an
update. -/
def mostCalls : Nat := 5

/-- A registration that nothing comes between. -/
def register {σ : Type} (repository : AgentRepository σ) (tokens : BootstrapTokens)
    (request : RegistrationRequest) (agentId : String) (now : Instant) (agents : σ) :
    Except RegistryError AgentRecord × σ :=
  match Admission.ofRequest tokens request with
  | .error error => (.error error, agents)
  | .ok admission =>
      match runRegistration repository admission agentId now mostCalls .checkKey agents with
      | (.over result, agents) => (result, agents)
      | (_, agents) => (.error (.store .notFound), agents)

/-- Whether a record is of a first registration or of a later one. -/
inductive RegistrationOutcome
  | registered
  | reregistered
deriving Repr, DecidableEq

/-- The outcome that a record shows. -/
def RegistrationOutcome.of (record : AgentRecord) : RegistrationOutcome :=
  if record.isReregistered then .reregistered else .registered

def RegistrationOutcome.message : RegistrationOutcome → String
  | .registered => "Agent successfully registered"
  | .reregistered => "Agent successfully re-registered"

def registeredStatus : String := "registered"

def registrationResponse (record : AgentRecord) : RegistrationResponse where
  agentId := record.agentId
  fingerprint := record.fingerprint
  status := registeredStatus
  message := (RegistrationOutcome.of record).message
  registeredAt := record.registeredAt

end Muster.ControlPlane
