import Muster.Text.Blank
/-!
Header fields of a request. Names are compared without regard to case, and of several fields with
one name the first one counts.
-/
namespace Muster.Http

/-- Fields in the order in which they were sent. -/
abbrev Headers := List (String × List UInt8)

/-- A name in lower case; only the letters of ASCII have two cases here. -/
def lowerName (name : String) : String :=
  String.ofList (name.toList.map Char.toLower)

def Headers.get? (headers : Headers) (name : String) : Option (List UInt8) :=
  (headers.find? fun field => lowerName field.1 = lowerName name).map Prod.snd

/-- An octet that a field may hold to be read as text: visible ASCII, space and tab. -/
def isVisible (b : UInt8) : Bool :=
  b = 0x09 || (0x20 ≤ b && b ≤ 0x7E)

/-- The text of octets that are all visible. -/
def visibleText? (octets : List UInt8) : Option String :=
  if octets.all isVisible then some (String.ofList (octets.map fun b => Char.ofNat b.toNat))
  else none

/-- The text of the first field with a name, if it is visible. -/
def Headers.text? (headers : Headers) (name : String) : Option String :=
  (headers.get? name).bind visibleText?

end Muster.Http
