import Muster.Json.Codec
/-!
Objects with fixed fields. A shape lists the fields of a structure in their order and says what an
absent field means; writing and reading of every such structure follow from its shape. An object may
also be written as the list of its fields.
-/
namespace Muster.Json

/-- A field: its name, its codec, the value that its absence stands for, and which values are not
written at all. -/
structure Field (α : Type) where
  name : String
  codec : Codec α
  absent : Option α := none
  isOmitted : α → Bool := fun _ => false

def textField (name : String) : Field String :=
  { name, codec := Codec.text }

/-- A field that may be absent or null, and is written as null. -/
def optionalField {α : Type} (name : String) (codec : Codec α) : Field (Option α) :=
  { name, codec := codec.optional, absent := some none }

/-- A field that may be absent or null, and is left out when it has no value. -/
def omittedField {α : Type} (name : String) (codec : Codec α) : Field (Option α) :=
  { optionalField name codec with isOmitted := Option.isNone }

/-- Fields of the given types. -/
inductive Fields : List Type → Type 1
  | nil : Fields []
  | cons {α : Type} {types : List Type} (field : Field α) (rest : Fields types) :
      Fields (α :: types)

/-- Values of the given types. -/
def Row : List Type → Type
  | [] => Unit
  | α :: types => α × Row types

/-- Values of the given types, some of them still unknown. -/
def Slots : List Type → Type
  | [] => Unit
  | α :: types => Option α × Slots types

def Fields.count {types : List Type} : Fields types → Nat
  | .nil => 0
  | .cons _ rest => rest.count + 1

def Fields.unknown {types : List Type} : Fields types → Slots types
  | .nil => ()
  | .cons _ rest => (none, rest.unknown)

def Fields.write {types : List Type} : Fields types → Row types → List (String × Value)
  | .nil, _ => []
  | .cons field rest, (a, row) =>
      if field.isOmitted a then rest.write row
      else (field.name, field.codec.write a) :: rest.write row

/-- The slots with one more member. A field may be given once; a member that is no field has to be
free of syntax errors and is skipped. -/
def Fields.put {types : List Type} :
    Fields types → Slots types → String → Doc → Except Fault (Slots types)
  | .nil, _, _, doc => if doc.isSound then .ok () else .error .malformed
  | .cons field rest, (slot, slots), name, doc =>
      if name = field.name then
        match slot with
        | some _ => refuse (.duplicateField name)
        | none => do
            let a ← under (.member name) (field.codec.read doc)
            .ok (some a, slots)
      else do
        let slots ← rest.put slots name doc
        .ok (slot, slots)

/-- The values in the slots, absent ones filled in. -/
def Fields.complete {types : List Type} :
    Fields types → Slots types → Except Fault (Row types)
  | .nil, _ => .ok ()
  | .cons field rest, (slot, slots) =>
      match slot <|> field.absent with
      | none => refuse (.missingField field.name)
      | some a => do
          let row ← rest.complete slots
          .ok (a, row)

/-- The slots with the members of an object, in their order. -/
def Fields.putAll {types : List Type} (fields : Fields types) :
    Slots types → List (Doc × Doc) → Except Fault (Slots types)
  | slots, [] => .ok slots
  | slots, (.text (some name), doc) :: rest => do
      let slots ← fields.put slots name doc
      fields.putAll slots rest
  | _, _ :: _ => .error .malformed

/-- The values in a list, from the field with the given index on. Fields at the end may be missing
if their absence means something. -/
def Fields.readList {types : List Type} (expected : String) (closed : Bool) :
    Fields types → Nat → List Doc → Except Fault (Row types)
  | .nil, _, docs => if closed ∧ docs.isEmpty then .ok () else .error .malformed
  | .cons field rest, index, [] =>
      if !closed then .error .malformed
      else match field.absent with
        | none => refuse (.tooShort index expected)
        | some a => do
            let row ← rest.readList expected closed (index + 1) []
            .ok (a, row)
  | .cons field rest, index, doc :: docs => do
      let a ← under (.item index) (field.codec.read doc)
      let row ← rest.readList expected closed (index + 1) docs
      .ok (a, row)

/-- A structure as an object: its name in messages, its fields, and the row of its values. -/
structure Shape (α : Type) where
  name : String
  types : List Type
  fields : Fields types
  toRow : α → Row types
  ofRow : Row types → α
  ofRow_toRow : ∀ a, ofRow (toRow a) = a := by intro a; rfl

def Shape.expected {α : Type} (shape : Shape α) : String :=
  "struct " ++ shape.name

/-- What messages say that is expected of a list of the fields. -/
def Shape.expectedList {α : Type} (shape : Shape α) : String :=
  let count := shape.fields.count
  shape.expected ++ " with " ++ Text.ofInt count ++ (if count = 1 then " element" else " elements")

def Shape.codec {α : Type} (shape : Shape α) : Codec α where
  write a := .record (shape.fields.write (shape.toRow a))
  read
    | .record members closed => do
        let slots ← shape.fields.putAll shape.fields.unknown members
        if closed then
          let row ← shape.fields.complete slots
          .ok (shape.ofRow row)
        else .error .malformed
    | .list docs closed => do
        let row ← shape.fields.readList shape.expectedList closed 0 docs
        .ok (shape.ofRow row)
    | doc => mismatch doc shape.expected

end Muster.Json
