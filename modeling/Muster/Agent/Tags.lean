import Muster.Wire.Tag
/-!
The tags that every agent registers with besides its own.
-/
namespace Muster.Agent

/-- The machine that an agent runs on. -/
structure Host where
  name : Option String
deriving Repr, DecidableEq

/-- The name of the machine, or a word that stands for it. -/
def Host.displayName (host : Host) : String :=
  host.name.getD "unknown"

def Host.tags (host : Host) : List Tag :=
  [⟨"hostname", host.displayName⟩, ⟨"os", "linux"⟩]

/-- The configured tags, and those of the machine behind them. -/
def withHostTags (host : Host) (tags : List Tag) : List Tag :=
  tags ++ host.tags

end Muster.Agent
