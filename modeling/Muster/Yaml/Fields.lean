import Muster.Text.Decimal
import Muster.Yaml.Node
/-!
What the nodes of a document mean where a certain kind of value is expected. Texts may be written in
any way; numbers and truth values are plain, or literal with their own tag. Where a list or an object is
expected nothing at all stands for an empty one.
-/
namespace Muster.Yaml

open Muster.Text

/-- The beginning of the tags of the format itself. -/
def coreTag (name : String) : String :=
  "tag:yaml.org,2002:" ++ name

def isNothing : Node → Bool
  | .scalar _ .plain text => text.isEmpty
  | _ => false

/-- A text: any scalar. -/
def Document.text? (document : Document) (node : Node) : Option String := do
  match ← document.resolve node with
  | .scalar _ _ text => some text
  | _ => none

/-- The words for no value. -/
def isNullWord (text : String) : Bool :=
  text = "null" || text = "Null" || text = "NULL" || text = "~"

/-- A text that may be absent: plain and empty, or a word for no value without any other tag. -/
def Document.optionalText? (document : Document) (node : Node) : Option (Option String) := do
  match ← document.resolve node with
  | .scalar none .plain text => some (if text.isEmpty ∨ isNullWord text then none else some text)
  | .scalar (some tag) .plain text =>
      if tag = coreTag "null" then if isNullWord text then some none else none
      else some (some text)
  | .scalar _ _ text => some (some text)
  | _ => none

/-- A scalar that may stand for a number or a truth value: one that is plain, or literal with the
tag of its kind. -/
def Document.bareText? (document : Document) (kind : String) (node : Node) : Option String := do
  match ← document.resolve node with
  | .scalar _ .plain text => some text
  | .scalar (some tag) .literal text => if tag = coreTag kind then some text else none
  | _ => none

/-- The value of digits in a base, below 2 ^ 64. -/
def digitsBelow64? (base : Nat) (digits : List Char) : Option Nat :=
  if digits.isEmpty then none
  else do
    let n ← digits.foldlM
      (fun n c => ((hexDigit? c).filter (· < base)).map fun digit => n * base + digit) 0
    if n < UInt64.size then some n else none

/-- A natural number that 64 bits hold. It may be hexadecimal, octal or binary behind a mark; a
decimal one has no leading zeros. A plus sign may precede it. -/
def naturalOf? (text : String) : Option Nat :=
  let digits := match text.toList with
    | '+' :: rest => rest
    | cs => cs
  match digits with
  | '0' :: 'x' :: rest => digitsBelow64? 16 rest
  | '0' :: 'o' :: rest => digitsBelow64? 8 rest
  | '0' :: 'b' :: rest => digitsBelow64? 2 rest
  | '0' :: _ :: _ => none
  | _ => digitsBelow64? 10 digits

/-- A natural number that 64 bits hold. -/
def Document.natural? (document : Document) (node : Node) : Option Nat := do
  naturalOf? (← document.bareText? "int" node)

def Document.flag? (document : Document) (node : Node) : Option Bool := do
  let text ← document.bareText? "bool" node
  if text = "true" ∨ text = "True" ∨ text = "TRUE" then some true
  else if text = "false" ∨ text = "False" ∨ text = "FALSE" then some false
  else none

def Document.list? {α : Type} (document : Document) (item : Node → Option α) (node : Node) :
    Option (List α) := do
  match ← document.resolve node with
  | .sequence items => items.mapM item
  | node => if isNothing node then some [] else none

/-- The fields of an object, each with what is written for it. -/
abbrev Fields := List (String × Node)

/-- The fields of an object. Their names are texts. -/
def Document.fields? (document : Document) (node : Node) : Option Fields := do
  match ← document.resolve node with
  | .mapping entries => entries.mapM fun (key, value) => do some (← document.text? key, value)
  | node => if isNothing node then some [] else none

/-- What is written for a field, if anything is; but not twice. -/
def Fields.find? (fields : Fields) (name : String) : Option (Option Node) :=
  match fields.filter (·.1 = name) with
  | [] => some none
  | [(_, node)] => some (some node)
  | _ => none

def Fields.required? {α : Type} (fields : Fields) (name : String) (read : Node → Option α) :
    Option α := do
  read (← (← fields.find? name))

/-- The value of a field, or another one where it is not there. -/
def Fields.orDefault? {α : Type} (fields : Fields) (name : String) (read : Node → Option α)
    (default : α) : Option α := do
  match ← fields.find? name with
  | some node => read node
  | none => some default

end Muster.Yaml
