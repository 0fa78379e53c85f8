import Muster.Text.Hexadecimal
import Muster.Text.Hidden
/-!
Quoted texts, as messages show a text that a caller sent: between double quotes, with a backslash
before quotes and backslashes, short names for the common controls and the number of every other
character that could not be seen.
-/
namespace Muster.Text

/-- One character as it stands between the quotes. -/
def quotedChar (c : Char) : List Char :=
  if c = '\x00' then ['\\', '0']
  else if c = '\t' then ['\\', 't']
  else if c = '\r' then ['\\', 'r']
  else if c = '\n' then ['\\', 'n']
  else if c = '\\' then ['\\', '\\']
  else if c = '"' then ['\\', '"']
  else if isHidden c then ['\\', 'u', '\x7b'] ++ hexDigits c.toNat ++ ['\x7d']
  else [c]

/-- The text between double quotes, every character in its quoted form. -/
def quoted (s : String) : String :=
  String.ofList ('"' :: s.toList.flatMap quotedChar ++ ['"'])

end Muster.Text
