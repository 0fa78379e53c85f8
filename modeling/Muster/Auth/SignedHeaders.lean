import Muster.Auth.Message
import Muster.Http.Headers
import Muster.Text.Utf8
/-!
The four header fields of a signed request, and why a request is not let in.
-/
namespace Muster.Auth

open Muster.Text Muster.Http

/-- Why a request is not authenticated. An unknown agent and one without a key look the same, so
that nobody learns which ids exist. -/
inductive AuthError
  | missingAgentId
  | missingTimestamp
  | invalidTimestamp
  | missingNonce
  | missingSignature
  | unknownAgent
  | invalidSignature
  | expired
  | replayed
deriving Repr, DecidableEq

def AuthError.message : AuthError → String
  | .missingAgentId => "missing agent ID"
  | .missingTimestamp => "missing timestamp"
  | .invalidTimestamp => "invalid timestamp"
  | .missingNonce => "missing nonce"
  | .missingSignature => "missing signature"
  | .unknownAgent => "authentication failed"
  | .invalidSignature => "invalid signature"
  | .expired => "request expired"
  | .replayed => "nonce already used"

/-- What a signed request says of itself. -/
structure SignedHeaders where
  agentId : String
  timestamp : Int
  nonce : String
  signature : String
deriving Repr, DecidableEq

/-- The names of the four fields. -/
def agentIdField : String := "x-agent-id"
def timestampField : String := "x-timestamp"
def nonceField : String := "x-nonce"
def signatureField : String := "x-signature"

def SignedHeaders.message (signed : SignedHeaders) : String :=
  signedMessage signed.agentId signed.timestamp signed.nonce

/-- The text of a field without blanks at its ends; a blank field counts as missing. -/
def fieldText? (headers : Headers) (name : String) : Option String :=
  ((headers.text? name).map trim).filter (!·.isEmpty)

/-- The text of a field that has to be there. -/
def requireField (headers : Headers) (name : String) (missing : AuthError) :
    Except AuthError String :=
  match fieldText? headers name with
  | some text => .ok text
  | none => .error missing

/-- The signature fields of a request. The first field that is missing or wrong is reported. -/
def SignedHeaders.ofHeaders (headers : Headers) : Except AuthError SignedHeaders := do
  let agentId ← requireField headers agentIdField .missingAgentId
  let timestampText ← requireField headers timestampField .missingTimestamp
  let timestamp ← match readInt bounds64 timestampText with
    | .ok n => .ok n
    | .error _ => .error .invalidTimestamp
  let nonce ← requireField headers nonceField .missingNonce
  let signature ← requireField headers signatureField .missingSignature
  .ok ⟨agentId, timestamp, nonce, signature⟩

def SignedHeaders.toHeaders (signed : SignedHeaders) : Headers :=
  [(agentIdField, toUtf8 signed.agentId),
    (timestampField, toUtf8 (ofInt signed.timestamp)),
    (nonceField, toUtf8 signed.nonce),
    (signatureField, toUtf8 signed.signature)]

end Muster.Auth
