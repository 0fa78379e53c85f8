import Muster.Json.Doc
import Muster.Text.Quoted
/-!
What can be wrong with a JSON text that a value of a given type is read from: its syntax, or the data
it holds. A fault in the data carries the way to the place where it was found.
-/
namespace Muster.Json

open Muster.Text

/-- A value of an unexpected kind, as messages show it. -/
inductive Found
  | null
  | bool (b : Bool)
  | integer (n : Int)
  | float (x : Float)
  | text (s : String)
  | list
  | record
deriving Repr

/-- The words for an unexpected value. -/
def Found.message : Found → String
  | .null => "null"
  | .bool b => "boolean `" ++ (if b then "true" else "false") ++ "`"
  | .integer n => "integer `" ++ ofInt n ++ "`"
  | .float x => "floating point `" ++ floatText messageStyle x ++ "`"
  | .text s => "string " ++ quoted s
  | .list => "sequence"
  | .record => "map"

/-- Why the data of a well-formed text do not make up the wanted value. -/
inductive DataError
  | missingField (name : String)
  | duplicateField (name : String)
  | tooShort (length : Nat) (expected : String)
  | unknownVariant (name : String) (known : List String)
  | wrongKind (found : Found) (expected : String)
  | outOfRange (n : Int) (expected : String)
  | badInstant
deriving Repr

def DataError.message : DataError → String
  | .missingField name => "missing field `" ++ name ++ "`"
  | .duplicateField name => "duplicate field `" ++ name ++ "`"
  | .tooShort length expected =>
      "invalid length " ++ ofInt length ++ ", expected " ++ expected
  | .unknownVariant name known =>
      "unknown variant `" ++ name ++ "`, expected one of " ++
        ", ".intercalate (known.map fun k => "`" ++ k ++ "`")
  | .wrongKind found expected => "invalid type: " ++ found.message ++ ", expected " ++ expected
  | .outOfRange n expected =>
      "invalid value: integer `" ++ ofInt n ++ "`, expected " ++ expected
  | .badInstant => "invalid timestamp"

/-- A step from a value to a part of it. -/
inductive Step
  | member (name : String)
  | item (index : Nat)
deriving Repr, DecidableEq

/-- The text of a step, the first one without the point that the others begin with. -/
def Step.text (isFirst : Bool) : Step → String
  | .member name => if isFirst then name else "." ++ name
  | .item index => "[" ++ ofInt index ++ "]"

/-- The text of the way along some steps: `tags[1].key`. -/
def pathText : List Step → String
  | [] => ""
  | first :: rest => rest.foldl (fun text step => text ++ step.text false) (first.text true)

/-- A text that no value could be read from. -/
inductive Fault
  | malformed
  | data (path : List Step) (error : DataError)
deriving Repr

def Fault.under (step : Step) : Fault → Fault
  | .malformed => .malformed
  | .data path error => .data (step :: path) error

def under {α : Type} (step : Step) : Except Fault α → Except Fault α
  | .ok a => .ok a
  | .error fault => .error (fault.under step)

def refuse {α : Type} (error : DataError) : Except Fault α :=
  .error (.data [] error)

/-- The fault of a document that is not of the expected kind. Where even its head cannot be read,
the syntax is at fault. -/
def mismatch {α : Type} (doc : Doc) (expected : String) : Except Fault α :=
  match doc with
  | .null => refuse (.wrongKind .null expected)
  | .bool b => refuse (.wrongKind (.bool b) expected)
  | .number n =>
      match n.amount with
      | .whole n => refuse (.wrongKind (.integer n) expected)
      | .float x => refuse (.wrongKind (.float x) expected)
      | .beyond => .error .malformed
  | .text (some s) => refuse (.wrongKind (.text s) expected)
  | .text none => .error .malformed
  | .list _ _ => refuse (.wrongKind .list expected)
  | .record _ _ => refuse (.wrongKind .record expected)
  | .broken => .error .malformed

end Muster.Json
