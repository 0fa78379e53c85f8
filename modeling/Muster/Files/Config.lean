import Muster.Files.FileSystem
import Muster.Yaml.Fields
/-!
Loading a configuration: its text comes from a file, is read as a document, and is checked. Every
step can fail in its own way.
-/
namespace Muster.Files

open Muster.Yaml

/-- Why a configuration cannot be loaded. -/
inductive ConfigError
  | io (error : FileError)
  | parse
  | invalid (reason : String)
deriving Repr, DecidableEq

/-- The messages for a configuration that cannot be loaded: the error itself, and the one that caused
it. -/
def ConfigError.causes : ConfigError → List String
  | .io error => ["io: " ++ error.message, error.message]
  | .parse => ["parse"]
  | .invalid reason => ["validation: " ++ reason]

/-- The message for a configuration that cannot be loaded. -/
def ConfigError.message (error : ConfigError) : String :=
  error.causes.headD ""

/-- A check of a configuration: the reason is given unless the condition holds. -/
def require (condition : Bool) (reason : String) : Except ConfigError Unit :=
  if condition then .ok () else .error (.invalid reason)

def configOfText {α : Type} (ofDocument? : Document → Option α)
    (validate : α → Except ConfigError Unit) (text : String) : Except ConfigError α :=
  match (Document.read? text).bind ofDocument? with
  | none => .error .parse
  | some config => do
      validate config
      .ok config

def configOfFile {α : Type} (ofText : String → Except ConfigError α)
    (text : Except FileError String) : Except ConfigError α :=
  match text with
  | .error error => .error (.io error)
  | .ok text => ofText text

end Muster.Files
