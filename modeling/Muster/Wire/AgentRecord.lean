import Muster.Wire.Tag
/-!
What the control plane keeps of a registered agent.
-/
namespace Muster

open Json Time

/-- A registered agent. `tokenId` is the bootstrap token it last registered with. -/
structure AgentRecord where
  agentId : String
  fingerprint : String
  publicKey : String
  publicKeyType : String
  status : String
  tokenId : String
  tags : List Tag
  registeredAt : Instant
  createdAt : Instant
  updatedAt : Instant
deriving DecidableEq

/-- Has the agent registered more than once? Until then its record has not been changed. -/
def AgentRecord.isReregistered (record : AgentRecord) : Bool :=
  record.createdAt ≠ record.updatedAt

def AgentRecord.shape : Shape AgentRecord where
  name := "AgentRecord"
  types := [String, String, String, String, String, String, List Tag, Instant, Instant, Instant]
  fields :=
    .cons (textField "agent_id") <|
    .cons (textField "fingerprint") <|
    .cons (textField "public_key") <|
    .cons (textField "public_key_type") <|
    .cons (textField "status") <|
    .cons (textField "token_id") <|
    .cons { name := "tags", codec := Tag.shape.codec.list } <|
    .cons { name := "registered_at", codec := Codec.instant } <|
    .cons { name := "created_at", codec := Codec.instant } <|
    .cons { name := "updated_at", codec := Codec.instant } .nil
  toRow r := (r.agentId, r.fingerprint, r.publicKey, r.publicKeyType, r.status, r.tokenId, r.tags,
    r.registeredAt, r.createdAt, r.updatedAt, ())
  ofRow
    | (agentId, fingerprint, publicKey, publicKeyType, status, tokenId, tags, registeredAt,
        createdAt, updatedAt, ()) =>
        ⟨agentId, fingerprint, publicKey, publicKeyType, status, tokenId, tags, registeredAt,
          createdAt, updatedAt⟩

end Muster
