import Muster.Auth.Bootstrap
import Muster.Files.Config
import Muster.Net.SocketAddress
/-!
The configuration of the control plane.
-/
namespace Muster.ControlPlane

open Muster.Auth Muster.Files Muster.Net Muster.Yaml

/-- The configuration of the control plane. Requests that are signed may be off by the freshness
window in seconds. -/
structure Config where
  listenAddress : SocketAddress := ⟨.v4 #v[0, 0, 0, 0], 8080, 0⟩
  freshnessWindow : Nat := 300
  nonceSweepInterval : Nat := 60
  tokens : List BootstrapToken := []
  unsignedTasks : Bool := false
deriving Repr, DecidableEq

def tokenOfNode? (document : Document) (node : Node) : Option BootstrapToken := do
  let fields ← document.fields? node
  let id ← fields.required? "id" document.text?
  let key ← fields.required? "key" document.text?
  some ⟨id, key⟩

def addressOfNode? (document : Document) (node : Node) : Option SocketAddress := do
  SocketAddress.ofText? (← document.text? node)

/-- The configuration in a document. Everything may be left out. -/
def Config.ofDocument? (document : Document) : Option Config := do
  let fields ← document.fields? (document.root.getD emptyNode)
  let standard : Config := {}
  let listenAddress ← fields.orDefault? "listen_addr" (addressOfNode? document)
    standard.listenAddress
  let freshnessWindow ← fields.orDefault? "freshness_window_secs" document.natural?
    standard.freshnessWindow
  let nonceSweepInterval ← fields.orDefault? "nonce_sweep_interval_secs" document.natural?
    standard.nonceSweepInterval
  let tokens ← fields.orDefault? "bootstrap_tokens" (document.list? (tokenOfNode? document))
    standard.tokens
  let unsignedTasks ← fields.orDefault? "legacy_unsigned_tasks" document.flag?
    standard.unsignedTasks
  some { listenAddress, freshnessWindow, nonceSweepInterval, tokens, unsignedTasks }

def Config.validate (config : Config) : Except ConfigError Unit := do
  require (0 < config.freshnessWindow) "freshness_window_secs must be > 0"
  require (0 < config.nonceSweepInterval) "nonce_sweep_interval_secs must be > 0"
  require (config.tokens.all fun token => !token.id.isEmpty && !token.key.isEmpty)
    "bootstrap token id and key must not be empty"

def Config.ofText (text : String) : Except ConfigError Config :=
  configOfText Config.ofDocument? Config.validate text

/-- The variable of the environment that names the file with the configuration. -/
def configVariable : String := "FLEET_SERVER_CONFIG"

/-- The configuration in the file that the environment names, or the standard one if it names
none. -/
def Config.ofEnvironment (file : Option (Except FileError String)) : Except ConfigError Config :=
  match file with
  | some text => configOfFile Config.ofText text
  | none => .ok {}

end Muster.ControlPlane
