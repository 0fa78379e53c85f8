import Muster.Agent.Tags
import Muster.Files.Config
import Muster.Time.Duration
import Muster.Wire.Registration
/-!
The configuration of an agent.
-/
namespace Muster.Agent

open Muster.Files Muster.Time Muster.Yaml

/-- The configuration of an agent: where its control plane is, what it registers with, where its key
is kept, and how long it waits. The times are in seconds. -/
structure Config where
  server : String
  fingerprint : Option String
  tokenId : String := ""
  tokenKey : String := ""
  keyPath : String := "/var/lib/fleet/agent_key.pem"
  keyBits : Nat := 2048
  tags : List Tag := []
  timeout : Nat := 30
  pollInterval : Nat := 5
  executionTimeout : Nat := 300
deriving Repr, DecidableEq

def leastKeyBits : Nat := 1024

def tagOfNode? (document : Document) (node : Node) : Option Tag := do
  let fields ← document.fields? node
  let key ← fields.required? "key" document.text?
  let value ← fields.required? "value" document.text?
  some ⟨key, value⟩

/-- The configuration in a document. The server and the section for the bootstrap token have to be
there, though the section may be empty. -/
def Config.ofDocument? (document : Document) : Option Config := do
  let fields ← document.fields? (document.root.getD emptyNode)
  let server ← fields.required? "server" document.text?
  let fingerprint ← fields.orDefault? "fingerprint" document.optionalText? none
  let standard : Config := { server, fingerprint }
  let bootstrap ← fields.required? "bootstrap" document.fields?
  let tokenId ← bootstrap.orDefault? "token_id" document.text? standard.tokenId
  let tokenKey ← bootstrap.orDefault? "token_key" document.text? standard.tokenKey
  let security ← fields.orDefault? "security" document.fields? []
  let keyPath ← security.orDefault? "key_path" document.text? standard.keyPath
  let keyBits ← security.orDefault? "key_bits" document.natural? standard.keyBits
  let tags ← fields.orDefault? "tags" (document.list? (tagOfNode? document)) standard.tags
  let timeout ← fields.orDefault? "timeout_secs" document.natural? standard.timeout
  let poll ← fields.orDefault? "poll" document.fields? []
  let pollInterval ← poll.orDefault? "interval_secs" document.natural? standard.pollInterval
  let executionTimeout ← poll.orDefault? "exec_timeout_secs" document.natural?
    standard.executionTimeout
  some { server, fingerprint, tokenId, tokenKey, keyPath, keyBits, tags, timeout, pollInterval,
         executionTimeout }

def Config.validate (config : Config) : Except ConfigError Unit := do
  require (!config.server.isEmpty) "server URL must not be empty"
  require (0 < config.timeout) "timeout_secs must be > 0"
  require (0 < config.pollInterval) "poll.interval_secs must be > 0"
  require (leastKeyBits ≤ config.keyBits) "security.key_bits must be >= 1024"
  require (config.tags.all fun tag => !tag.key.isEmpty) "tag keys must not be empty"

def Config.ofText (text : String) : Except ConfigError Config :=
  configOfText Config.ofDocument? Config.validate text

/-- The fingerprint that an agent registers with: the configured one, or else the name of its
machine. -/
def Config.fingerprintOn (config : Config) (host : Host) : String :=
  config.fingerprint.getD host.displayName

end Muster.Agent
