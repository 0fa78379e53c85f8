import Muster.Auth.Nonce
import Muster.Auth.SignedHeaders
import Muster.Rsa.PrivateKey
import Muster.Rsa.Signature
/-!
Signing requests: every request carries the agent's id, the time, a fresh nonce, and a signature of the
three.
-/
namespace Muster.Agent

open Muster.Auth Muster.Bytes Muster.Text

/-- An agent with its key. -/
structure Signer where
  agentId : String
  key : Rsa.PrivateKey

/-- The signature fields of a request made at a time with a nonce. The salt makes two signatures of
one message differ. -/
def Signer.signedHeadersAt (signer : Signer) (timestamp : Int) (nonce : String)
    (salt : List UInt8) : SignedHeaders :=
  let message := signedMessage signer.agentId timestamp nonce
  ⟨signer.agentId, timestamp, nonce, signer.key.signText salt (toUtf8 message)⟩

/-- The signature fields of a request made now, with a fresh nonce. -/
def Signer.signedHeaders (signer : Signer) (now : Int) (source : Entropy) :
    SignedHeaders × Entropy :=
  let (nonce, source) := freshNonce source
  let (salt, source) := source.octets Rsa.saltSize
  (signer.signedHeadersAt now nonce salt, source)

end Muster.Agent
