import Muster.Text.Decimal
import Muster.Text.Hexadecimal
/-!
JSON values that are to be written, and their text: compact, with the members of an object in their
own order. Only quotes, backslashes and control characters are escaped in texts.
-/
namespace Muster.Json

open Muster.Text

/-- A JSON value. -/
inductive Value
  | null
  | bool (b : Bool)
  | integer (n : Int)
  | text (s : String)
  | list (items : List Value)
  | record (members : List (String × Value))
deriving Repr, Inhabited

/-- A character as it stands in a written text. -/
def escape (c : Char) : List Char :=
  if c = '"' then ['\\', '"']
  else if c = '\\' then ['\\', '\\']
  else if c = '\x08' then ['\\', 'b']
  else if c = '\x0c' then ['\\', 'f']
  else if c = '\n' then ['\\', 'n']
  else if c = '\r' then ['\\', 'r']
  else if c = '\t' then ['\\', 't']
  else if c.toNat < 0x20 then ['\\', 'u', '0', '0'] ++ octetDigits (UInt8.ofNat c.toNat)
  else [c]

def textChars (s : String) : List Char :=
  '"' :: s.toList.flatMap escape ++ ['"']

mutual

def Value.chars : Value → List Char
  | .null => ['n', 'u', 'l', 'l']
  | .bool true => ['t', 'r', 'u', 'e']
  | .bool false => ['f', 'a', 'l', 's', 'e']
  | .integer n => (ofInt n).toList
  | .text s => textChars s
  | .list items => '[' :: itemsChars items
  | .record members => '\x7b' :: membersChars members

/-- The characters of the items of a list and of the bracket behind them. -/
def itemsChars : List Value → List Char
  | [] => [']']
  | [item] => item.chars ++ [']']
  | item :: rest => item.chars ++ ',' :: itemsChars rest

/-- The characters of the members of an object and of the brace behind them. -/
def membersChars : List (String × Value) → List Char
  | [] => ['\x7d']
  | [(name, value)] => textChars name ++ ':' :: value.chars ++ ['\x7d']
  | (name, value) :: rest => textChars name ++ ':' :: value.chars ++ ',' :: membersChars rest

end

def Value.write (value : Value) : String :=
  String.ofList value.chars

end Muster.Json
