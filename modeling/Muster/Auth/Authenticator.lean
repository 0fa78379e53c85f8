import Muster.Auth.SignedHeaders
import Muster.Rsa.Signature
import Muster.Store.NonceCache
import Muster.Store.Repository
import Muster.Time.Clock
/-!
Authentication of signed requests: the agent's key is looked up, the signature verified, the age of
the request checked and its nonce used up, in this order. Only a request that passes all of it
changes the replay cache.
-/
namespace Muster.Auth

open Muster.Store Muster.Time Muster.Text

/-- The window of freshness, cut to 64 signed bits. -/
def windowOf (seconds : Nat) : Int :=
  min seconds greatestSecond64

/-- The checks of a request under the key of its agent. -/
def authenticateUnder (window : Int) (publicKey : String) (signed : SignedHeaders) (now : Int)
    (nonces : NonceCache) : Except AuthError Unit × NonceCache :=
  if !Rsa.verifiesUnder publicKey (toUtf8 signed.message) signed.signature then
    (.error .invalidSignature, nonces)
  else if window < distance64 now signed.timestamp then (.error .expired, nonces)
  else
    match nonces.checkAndInsert signed.agentId signed.nonce (shift64 signed.timestamp window) now with
    | (true, nonces) => (.ok (), nonces)
    | (false, nonces) => (.error .replayed, nonces)

/-- The checks of a request. Whatever the repository says against the agent, it is unknown. -/
def authenticateAt {σ : Type} (repository : AgentRepository σ) (window : Int)
    (signed : SignedHeaders) (now : Int) (agents : σ) (nonces : NonceCache) :
    Except AuthError Unit × σ × NonceCache :=
  match repository.publicKeyOf signed.agentId agents with
  | (.error _, agents) => (.error .unknownAgent, agents, nonces)
  | (.ok publicKey, agents) =>
      let (result, nonces) := authenticateUnder window publicKey signed now nonces
      (result, agents, nonces)

end Muster.Auth
