import Muster.Bytes.Uuid
/-!
Fresh nonces for signed requests, and the ids that the control plane gives to agents and tasks.
-/
namespace Muster.Auth

open Muster.Bytes

/-- A fresh nonce: 32 hexadecimal digits. -/
def freshNonce (source : Entropy) : String × Entropy :=
  let (octets, source) := Uuid.fresh source
  (Uuid.simpleText octets, source)

def freshTaskId (source : Entropy) : String × Entropy :=
  let (octets, source) := Uuid.fresh source
  (Uuid.text octets, source)

def freshAgentId (source : Entropy) : String × Entropy :=
  let (octets, source) := Uuid.fresh source
  ("agent-" ++ Uuid.text octets, source)

end Muster.Auth
