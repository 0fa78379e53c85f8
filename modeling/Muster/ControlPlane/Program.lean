import Muster.ControlPlane.Config
import Muster.ControlPlane.Service
import Muster.Log
/-!
The control plane as a program: from its configuration to the point where it serves requests, and to
its end. The world outside is a record of operations in a monad.
-/
namespace Muster.ControlPlane

open Muster.Auth Muster.Files Muster.Net

/-- What the control plane needs of the world outside: a socket at an address, or the detail why there
is none, and somebody who serves requests until the program is told to stop. -/
structure Outside (m : Type → Type) where
  bind : SocketAddress → m (Except String Unit)
  serve : Config → m Unit
  log : Notice → m Unit

def Config.service (config : Config) : Service where
  tokens := BootstrapTokens.ofTokens config.tokens
  window := windowOf config.freshnessWindow
  unsignedTasks := config.unsignedTasks

def programName : String := "fleet_server"

/-- What a configuration is worth a warning for. -/
def Config.warnings (config : Config) : List Notice :=
  (if config.tokens.isEmpty then
    [⟨.warn, programName, "no bootstrap tokens configured, registration will always fail", []⟩]
  else []) ++
  (if config.unsignedTasks then
    [⟨.warn, programName ++ "::rest::router", "task routes are served without signature checks", []⟩]
  else [])

variable {m : Type → Type} [Monad m]

def runConfigured (outside : Outside m) (config : Config) : m Output := do
  for notice in config.warnings do
    outside.log notice
  match ← outside.bind config.listenAddress with
  | .error detail =>
      return ⟨1, "", errorReport ("binding " ++ config.listenAddress.text) [detail]⟩
  | .ok () => do
      outside.log ⟨.info, programName, "control plane listening",
        [("addr", config.listenAddress.text)]⟩
      outside.serve config
      outside.log ⟨.info, programName, "shutdown signal received", []⟩
      return ⟨0, "", ""⟩

/-- Runs the control plane with the file that the environment names, if it names one. -/
def runProgram (outside : Outside m) (file : Option (Except FileError String)) : m Output :=
  match Config.ofEnvironment file with
  | .ok config => runConfigured outside config
  | .error error => return ⟨1, "", errorReport "loading server config" error.causes⟩

end Muster.ControlPlane
