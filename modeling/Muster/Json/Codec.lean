import Muster.Json.Fault
import Muster.Json.Reader
import Muster.Time.Stamp.Reader
import Muster.Time.Stamp.Writer
/-!
How values of a type are written to JSON and read from it. Reading goes through the document in the
order of the text and reports the first thing that is wrong.
-/
namespace Muster.Json

open Muster.Text Muster.Time

/-- A writer and a reader for one type. -/
structure Codec (α : Type) where
  write : α → Value
  read : Doc → Except Fault α

def Codec.text : Codec String where
  write := .text
  read
    | .text (some s) => .ok s
    | doc => mismatch doc "a string"

/-- Whole numbers of a range with a name. -/
def Codec.integer (bounds : Bounds) (name : String) : Codec Int where
  write := .integer
  read
    | .number n =>
        match n.amount with
        | .whole k => if bounds.holds k then .ok k else refuse (.outOfRange k name)
        | .float x => refuse (.wrongKind (.float x) name)
        | .beyond => .error .malformed
    | doc => mismatch doc name

/-- Points of time, as texts. -/
def Codec.instant : Codec Instant where
  write i := .text i.text
  read
    | .text (some s) =>
        match Instant.ofText? s with
        | some i => .ok i
        | none => refuse .badInstant
    | doc => mismatch doc "an RFC 3339 formatted date and time string"

/-- Values that may be absent, which null stands for. -/
def Codec.optional {α : Type} (codec : Codec α) : Codec (Option α) where
  write
    | none => .null
    | some a => codec.write a
  read
    | .null => .ok none
    | doc => (codec.read doc).map some

/-- The values of some documents, from the item with the given index on. -/
def readItemsFrom {α : Type} (codec : Codec α) : Nat → List Doc → Except Fault (List α)
  | _, [] => .ok []
  | index, doc :: rest => do
      let a ← under (.item index) (codec.read doc)
      let items ← readItemsFrom codec (index + 1) rest
      .ok (a :: items)

def Codec.list {α : Type} (codec : Codec α) : Codec (List α) where
  write items := .list (items.map codec.write)
  read
    | .list docs closed => do
        let items ← readItemsFrom codec 0 docs
        if closed then .ok items else .error .malformed
    | doc => mismatch doc "a sequence"

def variantOf {α : Type} (variants : List (String × α)) (name : String) : Except Fault α :=
  match variants.lookup name with
  | some a => .ok a
  | none => refuse (.unknownVariant name (variants.map Prod.fst))

/-- A choice among named values: the name, or an object with the name and null. A value that is
neither is a syntax error. -/
def Codec.choice {α : Type} (variants : List (String × α)) (nameOf : α → String) : Codec α where
  write a := .text (nameOf a)
  read
    | .text (some name) => variantOf variants name
    | .record ((.text (some name), payload) :: rest) closed => do
        let a ← variantOf variants name
        match payload with
        | .null => if closed ∧ rest.isEmpty then .ok a else .error .malformed
        | doc => mismatch doc "unit"
    | .record ((name, _) :: _) _ => mismatch name "variant identifier"
    | _ => .error .malformed

/-- The value that a text holds. Wrong data count before anything behind them, and characters behind
a value that could be read are a syntax error. -/
def Codec.readText {α : Type} (codec : Codec α) (text : Glyphs) : Except Fault α := do
  let (doc, clean) := Doc.read text
  let a ← codec.read doc
  if clean then .ok a else .error .malformed

def Codec.readOctets {α : Type} (codec : Codec α) (octets : List UInt8) : Except Fault α :=
  codec.readText (glyphs octets)

def Codec.writeText {α : Type} (codec : Codec α) (a : α) : String :=
  (codec.write a).write

end Muster.Json
