import Muster.Agent.CommandLine
import Muster.Agent.Enrolment
import Muster.Agent.KeyStore
import Muster.Log
/-!
The agent as a program: from its arguments to the point where it begins to poll. The world outside is
a record of operations in a monad.
-/
namespace Muster.Agent

open Muster.Bytes Muster.Files Muster.Http

/-- What an agent needs of the world outside. Requests go where its configuration says. -/
structure Outside (m : Type → Type) where
  files : FileSystem m
  send : Config → Request → m (Except SendError Reply)
  log : Notice → m Unit

/-- Why an agent does not begin to poll. -/
inductive StartError
  | key (path : String) (error : KeyError)
  | enrolment (error : EnrolmentError)
  | reload (error : KeyError)
deriving Repr, DecidableEq

/-- The messages for an agent that does not begin to poll, the outermost first. -/
def StartError.causes : StartError → List String
  | .key path error => ("preparing keypair at " ++ path) :: error.causes
  | .enrolment error => ["registering with control plane", error.message]
  | .reload error => error.causes

def StartError.message (error : StartError) : String :=
  ": ".intercalate error.causes

def notice (level : Level) (message : String) (details : List (String × String) := []) : Notice :=
  ⟨level, "fleet_agent", message, details⟩

variable {m : Type → Type} [Monad m]

def start (outside : Outside m) (config : Config) (host : Host) (source : Entropy) :
    m (Except StartError Signer) := do
  let store : KeyStore := ⟨config.keyPath, config.keyBits⟩
  match ← store.prepare outside.files source with
  | .error error => return .error (.key config.keyPath error)
  | .ok prepared =>
      if prepared.isNew then
        outside.log (notice .info "generated agent keypair"
          [("path", config.keyPath), ("bits", Text.ofInt config.keyBits)])
      outside.log (notice .info "agent configured"
        [("fingerprint", config.fingerprintOn host), ("server", config.server)])
      match ← enrol (outside.send config) (config.registration host prepared.key.publicKey.encode) with
      | .error error => return .error (.enrolment error)
      | .ok response =>
          outside.log (notice .info "registered with control plane"
            [("agent_id", response.agentId), ("message", response.message)])
          match ← store.load outside.files with
          | .error error => return .error (.reload error)
          | .ok key => return .ok ⟨response.agentId, key⟩

/-- Runs the agent with a configuration. What it does once it has enrolled is given. -/
def runConfigured (outside : Outside m) (host : Host) (source : Entropy) (config : Config)
    (work : Config → Signer → m Unit) : m Output := do
  outside.log (notice .info "fleet agent starting")
  match ← start outside config host source with
  | .error error =>
      outside.log (notice .error "agent stopped" [("error", error.message)])
      return ⟨1, "", ""⟩
  | .ok signer => do
      outside.log (notice .info "agent running" [("agent_id", signer.agentId)])
      work config signer
      return ⟨0, "", ""⟩

def runProgram (outside : Outside m) (host : Host) (source : Entropy) (arguments : List String)
    (work : Config → Signer → m Unit) : m Output := do
  match parseArguments arguments with
  | .error error => return ⟨1, "", "error: " ++ error.message ++ "\n\n" ++ usage ++ "\n"⟩
  | .ok .version => return ⟨0, versionText ++ "\n", ""⟩
  | .ok .help => return ⟨0, usage ++ "\n", ""⟩
  | .ok (.run path) =>
      match configOfFile Config.ofText (← outside.files.readText path) with
      | .ok config => runConfigured outside host source config work
      | .error error =>
          outside.log (notice .error "invalid configuration"
            [("path", path), ("error", error.message)])
          return ⟨1, "", ""⟩

end Muster.Agent
