import Muster.Text.Decimal
/-!
The message that an agent signs with a request: its id, the time in Unix seconds and a nonce, with a
bar between them. Whoever changes this layout changes the version with it.
-/
namespace Muster.Auth

def messageVersion : Nat := 1

/-- The message for an agent, a time and a nonce. -/
def signedMessage (agentId : String) (timestamp : Int) (nonce : String) : String :=
  agentId ++ "|" ++ Text.ofInt timestamp ++ "|" ++ nonce

end Muster.Auth
