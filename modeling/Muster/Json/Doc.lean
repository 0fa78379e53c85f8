import Muster.Json.Number
import Muster.Json.Value
/-!
JSON texts as far as they can be read. A text that breaks off or goes wrong is kept up to that
place, so that what it is read for can be checked in the order of the text: a wrong member in front
counts before broken syntax behind it.
-/
namespace Muster.Json

/-- What could be read of a JSON text. A text has no value where it holds octets or escapes that are
no characters; lists and objects say whether they are closed. -/
inductive Doc
  | null
  | bool (b : Bool)
  | number (n : Numeral)
  | text (s : Option String)
  | list (items : List Doc) (closed : Bool)
  | record (members : List (Doc × Doc)) (closed : Bool)
  | broken
deriving Repr, Inhabited

/-- Can the document be the name of a member? -/
def Doc.isName : Doc → Bool
  | .text _ => true
  | _ => false

mutual

/-- Is the document free of syntax errors? Texts without a value and numbers of any size count as
correct. -/
def Doc.isSound : Doc → Bool
  | .broken => false
  | .list items closed => closed && areSound items
  | .record members closed => closed && membersAreSound members
  | _ => true

def areSound : List Doc → Bool
  | [] => true
  | item :: rest => item.isSound && areSound rest

def membersAreSound : List (Doc × Doc) → Bool
  | [] => true
  | (name, value) :: rest => name.isName && value.isSound && membersAreSound rest

end

def Numeral.text (n : Numeral) : String :=
  let fraction := if n.fraction.isEmpty then [] else '.' :: n.fraction
  let exponent := match n.exponent with
    | none => []
    | some (negative, digits) => 'e' :: (if negative then '-' :: digits else digits)
  String.ofList ((if n.negative then ['-'] else []) ++ n.whole ++ fraction ++ exponent)

mutual

/-- The text of a document, compact. What could not be read is left out of it as null. -/
def Doc.write : Doc → String
  | .null | .broken => "null"
  | .bool b => if b then "true" else "false"
  | .number n => n.text
  | .text s => (Value.text (s.getD "")).write
  | .list items _ => "[" ++ ",".intercalate (writeItems items) ++ "]"
  | .record members _ => "\x7b" ++ ",".intercalate (writeMembers members) ++ "\x7d"

def writeItems : List Doc → List String
  | [] => []
  | item :: rest => item.write :: writeItems rest

def writeMembers : List (Doc × Doc) → List String
  | [] => []
  | (name, value) :: rest => (name.write ++ ":" ++ value.write) :: writeMembers rest

end

mutual

/-- The document that reading the text of a value gives. -/
def Value.toDoc : Value → Doc
  | .null => .null
  | .bool b => .bool b
  | .integer n => .number (Numeral.ofInt n)
  | .text s => .text (some s)
  | .list items => .list (itemDocs items) true
  | .record members => .record (memberDocs members) true

def itemDocs : List Value → List Doc
  | [] => []
  | item :: rest => item.toDoc :: itemDocs rest

def memberDocs : List (String × Value) → List (Doc × Doc)
  | [] => []
  | (name, value) :: rest => (.text (some name), value.toDoc) :: memberDocs rest

end

end Muster.Json
