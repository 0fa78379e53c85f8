import Muster.Wire.Tag
/-!
The request with which an agent registers, the answer to it, and the body of every error answer.
-/
namespace Muster

open Json Time

/-- The one kind of key that agents register with. -/
def rsaKeyType : String := "rsa"

/-- What an agent registers with: its fingerprint, a bootstrap token, its public key and tags. -/
structure RegistrationRequest where
  fingerprint : String
  tokenId : String
  tokenKey : String
  publicKey : String
  publicKeyType : String
  tags : List Tag
deriving Repr, DecidableEq

/-- What an agent learns when it has registered. -/
structure RegistrationResponse where
  agentId : String
  fingerprint : String
  status : String
  message : String
  registeredAt : Instant
deriving DecidableEq

/-- The body of an error answer. -/
structure ErrorBody where
  error : String
deriving Repr, DecidableEq

/-- A registration as an object; tags may be left out. -/
def RegistrationRequest.shape : Shape RegistrationRequest where
  name := "RegistrationRequest"
  types := [String, String, String, String, String, List Tag]
  fields :=
    .cons (textField "fingerprint") <|
    .cons (textField "token_id") <|
    .cons (textField "token_key") <|
    .cons (textField "public_key") <|
    .cons (textField "public_key_type") <|
    .cons { name := "tags", codec := Tag.shape.codec.list, absent := some [] } .nil
  toRow r := (r.fingerprint, r.tokenId, r.tokenKey, r.publicKey, r.publicKeyType, r.tags, ())
  ofRow
    | (fingerprint, tokenId, tokenKey, publicKey, publicKeyType, tags, ()) =>
        ⟨fingerprint, tokenId, tokenKey, publicKey, publicKeyType, tags⟩

def RegistrationResponse.shape : Shape RegistrationResponse where
  name := "RegistrationResponse"
  types := [String, String, String, String, Instant]
  fields :=
    .cons (textField "agent_id") <|
    .cons (textField "fingerprint") <|
    .cons (textField "status") <|
    .cons (textField "message") <|
    .cons { name := "registered_at", codec := Codec.instant } .nil
  toRow r := (r.agentId, r.fingerprint, r.status, r.message, r.registeredAt, ())
  ofRow
    | (agentId, fingerprint, status, message, registeredAt, ()) =>
        ⟨agentId, fingerprint, status, message, registeredAt⟩

def ErrorBody.shape : Shape ErrorBody where
  name := "ErrorBody"
  types := [String]
  fields := .cons (textField "error") .nil
  toRow b := (b.error, ())
  ofRow | (error, ()) => ⟨error⟩

end Muster
