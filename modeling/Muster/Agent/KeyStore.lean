import Muster.Files.FileSystem
import Muster.Rsa.Generation
/-!
The file that holds an agent's private key. A key is made only where there is no file; a file that
holds anything else than a key is left as it is.
-/
namespace Muster.Agent

open Muster.Bytes Muster.Files Muster.Text

/-- Where the key is kept, and how many bits a new one has. -/
structure KeyStore where
  path : String
  bits : Nat
deriving Repr, DecidableEq

/-- Why there is no key. -/
inductive KeyError
  | io (error : FileError)
  | corrupt
  | generate
deriving Repr, DecidableEq

/-- The messages for a missing key: the error itself, and the one that caused it. -/
def KeyError.causes : KeyError → List String
  | .io error => ["key file io: " ++ error.message, error.message]
  | .corrupt => ["key file is not a valid PKCS#8 RSA key"]
  | .generate => ["key generation failed"]

def KeyError.message (error : KeyError) : String :=
  error.causes.headD ""

/-- The key that the text of a key file holds. -/
def keyOfText (text : String) : Except KeyError Rsa.PrivateKey :=
  match Rsa.PrivateKey.ofPem? text with
  | some key => .ok key
  | none => .error .corrupt

/-- A key that is ready for use, and whether it is new. -/
structure PreparedKey where
  key : Rsa.PrivateKey
  isNew : Bool

variable {m : Type → Type} [Monad m]

/-- Writes a key into its file, in a directory that is made if need be. -/
def KeyStore.save (store : KeyStore) (files : FileSystem m) (key : Rsa.PrivateKey) :
    m (Except KeyError Unit) := do
  let made ← match parent? store.path with
    | some directory => files.makeDirectories directory
    | none => pure (.ok ())
  match made with
  | .error error => return .error (.io error)
  | .ok () =>
      match ← files.writePrivate store.path (toUtf8 key.toPem) with
      | .error error => return .error (.io error)
      | .ok () => return .ok ()

def KeyStore.create (store : KeyStore) (files : FileSystem m) (source : Entropy) :
    m (Except KeyError PreparedKey) := do
  match Rsa.PrivateKey.generate? store.bits source with
  | none => return .error .generate
  | some key =>
      match ← store.save files key with
      | .error error => return .error error
      | .ok () => return .ok ⟨key, true⟩

/-- The key in the file, or a new one where there is no file. -/
def KeyStore.prepare (store : KeyStore) (files : FileSystem m) (source : Entropy) :
    m (Except KeyError PreparedKey) := do
  match ← files.readText store.path with
  | .ok text => return (keyOfText text).map (⟨·, false⟩)
  | .error .notFound => store.create files source
  | .error error => return .error (.io error)

def KeyStore.load (store : KeyStore) (files : FileSystem m) : m (Except KeyError Rsa.PrivateKey) := do
  match ← files.readText store.path with
  | .ok text => return keyOfText text
  | .error error => return .error (.io error)

end Muster.Agent
