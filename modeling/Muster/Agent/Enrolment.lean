import Muster.Agent.Config
import Muster.Agent.Reply
import Muster.Agent.TaskCall
/-!
Enrolment: the one request that an agent makes before it has an id, with a bootstrap token instead of
a signature.
-/
namespace Muster.Agent

open Muster.Http Muster.Json

/-- Why an enrolment fails. -/
inductive EnrolmentError
  | noToken
  | request (error : SendError)
  | rejected (status : Nat) (message : String)
  | badStatus (status : Nat)
  | decode (detail : String)
deriving Repr, DecidableEq

def EnrolmentError.message : EnrolmentError → String
  | .noToken => "bootstrap token id and key must be configured"
  | .request error => "registration request failed: " ++ error.detail
  | .rejected _ message => "registration failed: " ++ message
  | .badStatus status => "registration failed with status " ++ Text.ofInt status
  | .decode detail => "failed to parse response: " ++ detail

def EnrolmentError.isTimeout : EnrolmentError → Bool
  | .request error => error.isTimeout
  | _ => false

def enrolmentPath : String := "/v1/agents/register"

/-- The registration of an agent on a machine, with the text of its public key. -/
def Config.registration (config : Config) (host : Host) (publicKey : String) :
    RegistrationRequest where
  fingerprint := config.fingerprintOn host
  tokenId := config.tokenId
  tokenKey := config.tokenKey
  publicKey := publicKey
  publicKeyType := rsaKeyType
  tags := withHostTags host config.tags

/-- The request of a registration. Without a token there is none. -/
def enrolmentRequest (registration : RegistrationRequest) : Except EnrolmentError Request :=
  if registration.tokenId.isEmpty ∨ registration.tokenKey.isEmpty then .error .noToken
  else .ok (requestWith "POST" enrolmentPath []
    (some (RegistrationRequest.shape.codec.writeText registration)))

/-- A fault of a reply in words. -/
def faultText : Fault → String
  | .malformed => "malformed text"
  | .data _ error => error.message

def readEnrolment (reply : Reply) : Except EnrolmentError RegistrationResponse :=
  if isSuccess reply.status then
    match RegistrationResponse.shape.codec.readOctets reply.body with
    | .ok response => .ok response
    | .error fault => .error (.decode (faultText fault))
  else match reply.errorText? with
    | some message =>
        if message.isEmpty then .error (.badStatus reply.status)
        else .error (.rejected reply.status message)
    | none => .error (.badStatus reply.status)

def enrol {m : Type → Type} [Monad m] (send : Request → m (Except SendError Reply))
    (registration : RegistrationRequest) : m (Except EnrolmentError RegistrationResponse) := do
  match enrolmentRequest registration with
  | .error error => return .error error
  | .ok request =>
      match ← send request with
      | .error error => return .error (.request error)
      | .ok reply => return readEnrolment reply

end Muster.Agent
