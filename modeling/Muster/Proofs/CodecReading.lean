import Mathlib.Data.List.Nodup
import Muster.Json.Shape
import Muster.Proofs.JsonReading
import Muster.Proofs.Utf8Reading
/-!
Which values a codec restores: those that are read back from what was written for them. A structure is
restored as soon as its fields are, whatever the structure, and its octets hold it then.
-/
namespace Muster.Json

open Muster.Text

/-- The value is read back from the document of what is written for it. -/
def Codec.Restores {α : Type} (codec : Codec α) (a : α) : Prop :=
  codec.read (codec.write a).toDoc = .ok a

/-- What is written for a restored value is read back octet by octet. -/
theorem Codec.Restores.readOctets {α : Type} {codec : Codec α} {a : α} (ha : codec.Restores a) :
    codec.readOctets (toUtf8 (codec.writeText a)) = .ok a := by
  have hread := read_chars (codec.write a)
  rw [Codec.readOctets, glyphs_toUtf8, Codec.writeText, Value.write, String.toList_ofList,
    Codec.readText, hread]
  simp only [Codec.Restores] at ha
  simp [ha]
  rfl

theorem Codec.restores_text (s : String) : Codec.text.Restores s := rfl

/-- Digits are absorbed as long as the number that they write fits. -/
theorem absorb_of_lt {digits : List Char} {n : Nat}
    (hfits : digits.foldl (fun value c => value * 10 + (digit? c).getD 0) n < UInt64.size) :
    absorb n digits =
      (digits.foldl (fun value c => value * 10 + (digit? c).getD 0) n, digits.length) := by
  have hgrows : ∀ (more : List Char) (k : Nat),
      k ≤ more.foldl (fun value c => value * 10 + (digit? c).getD 0) k := by
    intro more
    induction more with
    | nil => exact fun k => Nat.le_refl k
    | cons c more ih =>
        intro k
        have := ih (k * 10 + (digit? c).getD 0)
        rw [List.foldl_cons]
        omega
  induction digits generalizing n with
  | nil => rfl
  | cons c digits ih =>
      rw [List.foldl_cons] at hfits
      have hnext := Nat.lt_of_le_of_lt (hgrows digits _) hfits
      rw [absorb, if_pos hnext, ih hfits]
      rfl

theorem magnitude_ofInt {n : Int} (hn : n.natAbs < UInt64.size) :
    (Numeral.ofInt n).magnitude = .whole n.natAbs := by
  have hvalue := digitsValue_natDigits n.natAbs
  rw [digitsValue] at hvalue
  have hfits : (natDigits n.natAbs).foldl (fun value c => value * 10 + (digit? c).getD 0) 0 <
      UInt64.size := by
    rw [hvalue]
    exact hn
  have habsorb := absorb_of_lt hfits
  rw [hvalue] at habsorb
  simp [Numeral.magnitude, Numeral.ofInt, habsorb]

/-- The numbers of 64 bits, signed or not, are whole. -/
theorem amount_ofInt {n : Int} (hlow : -9223372036854775808 ≤ n) (hhigh : n < UInt64.size) :
    (Numeral.ofInt n).amount = .whole n := by
  have hsize : (UInt64.size : Int) = 18446744073709551616 := rfl
  have hmagnitude : (Numeral.ofInt n).magnitude = .whole n.natAbs := magnitude_ofInt (by omega)
  have hsign : (Numeral.ofInt n).negative = decide (n < 0) := rfl
  rw [Numeral.amount, hmagnitude, hsign]
  by_cases hnegative : n < 0
  · rw [if_pos (decide_eq_true hnegative)]
    split
    · next hzero =>
        have := Amount.whole.inj hzero
        omega
    · next size _ hsame =>
        have := Amount.whole.inj hsame
        rw [if_pos (by omega)]
        congr 1
        omega
    · next hother =>
        exact (hother _ rfl).elim
  · rw [if_neg (by simpa using hnegative)]
    congr 1
    omega

/-- A whole number is restored if it is one of the range, and the range one of 64 bits. -/
theorem Codec.restores_integer {bounds : Bounds} {n : Int} (name : String)
    (hn : bounds.holds n = true) (hlow : -9223372036854775808 ≤ n) (hhigh : n < UInt64.size) :
    (Codec.integer bounds name).Restores n := by
  have hread : (Codec.integer bounds name).read (.number (Numeral.ofInt n)) = .ok n := by
    simp only [Codec.integer, amount_ofInt hlow hhigh, hn, ↓reduceIte]
  exact hread

theorem Codec.restores_none {α : Type} (codec : Codec α) : codec.optional.Restores none := rfl

/-- A value that is there is restored if it is not written as null, which stands for none. -/
theorem Codec.Restores.some {α : Type} {codec : Codec α} {a : α} (ha : codec.Restores a)
    (hnull : codec.write a ≠ .null) : codec.optional.Restores (some a) := by
  have hdoc : (codec.write a).toDoc ≠ .null := by
    cases hvalue : codec.write a with
    | null => exact absurd hvalue hnull
    | bool | integer | text | list | record => simp [Value.toDoc]
  simp only [Codec.Restores] at ha
  simp only [Codec.Restores, Codec.optional]
  rw [ha]
  rfl

theorem Codec.restores_optional {α : Type} {codec : Codec α} {slot : Option α}
    (hslot : ∀ a, slot = Option.some a → codec.Restores a ∧ codec.write a ≠ .null) :
    codec.optional.Restores slot := by
  cases slot with
  | none => exact Codec.restores_none codec
  | some a =>
      obtain ⟨ha, hnull⟩ := hslot a rfl
      exact ha.some hnull

theorem readItemsFrom_itemDocs {α : Type} {codec : Codec α} {items : List α}
    (hitems : ∀ a ∈ items, codec.Restores a) (index : Nat) :
    readItemsFrom codec index (itemDocs (items.map codec.write)) = .ok items := by
  induction items generalizing index with
  | nil => rfl
  | cons a items ih =>
      have ha := hitems a List.mem_cons_self
      have hrest := ih (fun b hb => hitems b (List.mem_cons_of_mem a hb)) (index + 1)
      simp only [Codec.Restores] at ha
      rw [List.map_cons, itemDocs, readItemsFrom, ha, hrest]
      rfl

theorem Codec.restores_list {α : Type} {codec : Codec α} {items : List α}
    (hitems : ∀ a ∈ items, codec.Restores a) : codec.list.Restores items := by
  have hread := readItemsFrom_itemDocs hitems 0
  simp only [Codec.Restores, Codec.list, Value.toDoc, hread]
  rfl

/-- A named value is restored if its name leads to it. -/
theorem Codec.restores_choice {α : Type} {variants : List (String × α)} {nameOf : α → String}
    {a : α} (ha : variants.lookup (nameOf a) = some a) :
    (Codec.choice variants nameOf).Restores a := by
  simp only [Codec.Restores, Codec.choice, Value.toDoc, variantOf, ha]

/-- A field is restored by its codec, or by being left out. -/
def Field.Restores {α : Type} (field : Field α) (a : α) : Prop :=
  if field.isOmitted a then field.absent = some a else field.codec.Restores a

/-- All the fields of a row are restored. -/
def Fields.Restore {types : List Type} : Fields types → Row types → Prop
  | .nil, _ => True
  | .cons field rest, (a, row) => field.Restores a ∧ rest.Restore row

def Fields.names {types : List Type} : Fields types → List String
  | .nil => []
  | .cons field rest => field.name :: rest.names

/-- The slots behind all that is written for a row. -/
def Fields.written {types : List Type} : Fields types → Row types → Slots types
  | .nil, _ => ()
  | .cons field rest, (a, row) => (if field.isOmitted a then none else some a, rest.written row)

theorem Fields.names_write {types : List Type} (fields : Fields types) (row : Row types) :
    ∀ member ∈ fields.write row, member.1 ∈ fields.names := by
  induction fields with
  | nil =>
      intro member hmember
      cases hmember
  | cons field rest ih =>
      obtain ⟨a, row⟩ := row
      intro member hmember
      rw [Fields.write] at hmember
      split at hmember
      · exact List.mem_cons_of_mem _ (ih row member hmember)
      · rcases List.mem_cons.1 hmember with rfl | hlater
        · exact List.mem_cons_self
        · exact List.mem_cons_of_mem _ (ih row member hlater)

theorem Fields.putAll_cons {types : List Type} (fields : Fields types) (slots : Slots types)
    (name : String) (doc : Doc) (rest : List (Doc × Doc)) :
    fields.putAll slots ((.text (some name), doc) :: rest) =
      (fields.put slots name doc).bind fun next => fields.putAll next rest := rfl

theorem Fields.putAll_cons_of_ok {types : List Type} {fields : Fields types}
    {slots next : Slots types} {name : String} {doc : Doc}
    (hput : fields.put slots name doc = .ok next) (rest : List (Doc × Doc)) :
    fields.putAll slots ((.text (some name), doc) :: rest) = fields.putAll next rest := by
  rw [Fields.putAll_cons, hput]
  rfl

theorem Fields.put_first {α : Type} {types : List Type} {field : Field α} (rest : Fields types)
    (slots : Slots types) {doc : Doc} {a : α} (ha : field.codec.read doc = .ok a) :
    (Fields.cons field rest).put (none, slots) field.name doc = .ok (some a, slots) := by
  simp only [Fields.put, ↓reduceIte, ha]
  rfl

theorem Fields.put_past {α : Type} {types : List Type} {field : Field α} {rest : Fields types}
    {slots next : Slots types} {name : String} {doc : Doc} (hname : name ≠ field.name)
    (hput : rest.put slots name doc = .ok next) (slot : Option α) :
    (Fields.cons field rest).put (slot, slots) name doc = .ok (slot, next) := by
  cases slot <;> simp only [Fields.put, hname, ↓reduceIte, hput] <;> rfl

/-- Members with other names than the first field's go past it. -/
theorem Fields.putAll_past {α : Type} {types : List Type} {field : Field α} {rest : Fields types}
    {members : List (String × Value)} (hother : ∀ member ∈ members, member.1 ≠ field.name)
    {slot : Option α} {slots after : Slots types}
    (hrest : rest.putAll slots (memberDocs members) = .ok after) :
    (Fields.cons field rest).putAll (slot, slots) (memberDocs members) = .ok (slot, after) := by
  induction members generalizing slots with
  | nil =>
      cases hrest
      rfl
  | cons member members ih =>
      obtain ⟨name, value⟩ := member
      have hname : name ≠ field.name := hother (name, value) List.mem_cons_self
      rw [memberDocs, Fields.putAll_cons] at hrest
      cases hput : rest.put slots name value.toDoc with
      | error fault =>
          rw [hput] at hrest
          cases hrest
      | ok next =>
          rw [hput] at hrest
          have hlater := ih (fun other hmem => hother other (List.mem_cons_of_mem _ hmem)) hrest
          exact (Fields.putAll_cons_of_ok (Fields.put_past hname hput slot) _).trans hlater

theorem Fields.putAll_write {types : List Type} {fields : Fields types} {row : Row types}
    (hnames : fields.names.Nodup) (hrow : fields.Restore row) :
    fields.putAll fields.unknown (memberDocs (fields.write row)) = .ok (fields.written row) := by
  induction fields with
  | nil => rfl
  | cons field rest ih =>
      obtain ⟨a, row⟩ := row
      obtain ⟨hfield, hrest⟩ := hrow
      rw [Fields.names, List.nodup_cons] at hnames
      have hother : ∀ member ∈ rest.write row, member.1 ≠ field.name := by
        rintro member hmember hsame
        exact hnames.1 (hsame ▸ rest.names_write row member hmember)
      have hputs := ih hnames.2 hrest
      rw [Fields.write, Fields.written, Fields.unknown]
      rw [Field.Restores] at hfield
      by_cases homitted : field.isOmitted a = true
      · rw [if_pos homitted, if_pos homitted]
        exact Fields.putAll_past hother hputs
      · rw [if_neg homitted] at hfield
        rw [if_neg homitted, if_neg homitted, memberDocs]
        have hfirst := Fields.put_first rest rest.unknown hfield
        exact (Fields.putAll_cons_of_ok hfirst _).trans (Fields.putAll_past hother hputs)

theorem Fields.complete_written {types : List Type} {fields : Fields types} {row : Row types}
    (hrow : fields.Restore row) : fields.complete (fields.written row) = .ok row := by
  induction fields with
  | nil => rfl
  | cons field rest ih =>
      obtain ⟨a, row⟩ := row
      obtain ⟨hfield, hrest⟩ := hrow
      have hcomplete := ih hrest
      rw [Fields.written, Fields.complete]
      rw [Field.Restores] at hfield
      by_cases homitted : field.isOmitted a = true
      · rw [if_pos homitted] at hfield ⊢
        rw [hfield, hcomplete]
        rfl
      · rw [if_neg homitted, hcomplete]
        rfl

/-- A structure is restored if its fields are, and no two of them have one name. -/
theorem Shape.restores {α : Type} {shape : Shape α} {a : α} (hnames : shape.fields.names.Nodup)
    (hrow : shape.fields.Restore (shape.toRow a)) : shape.codec.Restores a := by
  have hputs := Fields.putAll_write hnames hrow
  have hcomplete := Fields.complete_written hrow
  simp only [Codec.Restores, Shape.codec, Value.toDoc, hputs]
  change (do
    let row ← shape.fields.complete (shape.fields.written (shape.toRow a))
    Except.ok (shape.ofRow row)) = Except.ok a
  rw [hcomplete]
  exact congrArg Except.ok (shape.ofRow_toRow a)

/-- The codec reads the value from some document. -/
def Codec.Yields {α : Type} (codec : Codec α) (a : α) : Prop :=
  ∃ doc, codec.read doc = .ok a

/-- A whole number that is read is one of the range. -/
theorem Codec.Yields.holds {bounds : Bounds} {name : String} {n : Int}
    (hn : (Codec.integer bounds name).Yields n) : bounds.holds n = true := by
  obtain ⟨doc, hread⟩ := hn
  simp only [Codec.integer] at hread
  split at hread
  · split at hread
    · split at hread
      · next hbounds =>
          cases hread
          exact hbounds
      · cases hread
    · cases hread
    · cases hread
  · next hother =>
      cases doc with
      | number n => exact absurd rfl (hother n)
      | text s => cases s <;> cases hread
      | null | bool | list | record | broken => cases hread

theorem Codec.Yields.of_some {α : Type} {codec : Codec α} {a : α}
    (ha : codec.optional.Yields (some a)) : codec.Yields a := by
  obtain ⟨doc, hread⟩ := ha
  simp only [Codec.optional] at hread
  split at hread
  · cases hread
  · refine ⟨doc, ?_⟩
    cases hdoc : codec.read doc with
    | error fault =>
        rw [hdoc] at hread
        cases hread
    | ok b =>
        rw [hdoc] at hread
        cases hread
        rfl

/-- A field gets its value from a document, or from its absence. -/
def Field.Yields {α : Type} (field : Field α) (a : α) : Prop :=
  field.codec.Yields a ∨ field.absent = some a

/-- All the values of a row come from their fields. -/
def Fields.Yield {types : List Type} : Fields types → Row types → Prop
  | .nil, _ => True
  | .cons field rest, (a, row) => field.Yields a ∧ rest.Yield row

/-- All the values in the slots come from documents. -/
def Fields.Fill {types : List Type} : Fields types → Slots types → Prop
  | .nil, _ => True
  | .cons field rest, (slot, slots) =>
      (∀ a, slot = some a → field.codec.Yields a) ∧ rest.Fill slots

theorem Fields.fill_unknown {types : List Type} (fields : Fields types) :
    fields.Fill fields.unknown := by
  induction fields with
  | nil => trivial
  | cons field rest ih =>
      refine ⟨?_, ih⟩
      intro a hnone
      cases hnone

theorem under_eq_ok {α : Type} {step : Step} {result : Except Fault α} {a : α}
    (hunder : under step result = .ok a) : result = .ok a := by
  cases result with
  | error fault => cases hunder
  | ok b =>
      cases hunder
      rfl

theorem bind_eq_ok {ε α β : Type} {result : Except ε α} {next : α → Except ε β} {b : β}
    (hbind : (result >>= next) = .ok b) : ∃ a, result = .ok a ∧ next a = .ok b := by
  cases result with
  | error fault => cases hbind
  | ok a => exact ⟨a, rfl, hbind⟩

theorem Fields.Fill.put {types : List Type} {fields : Fields types} {slots next : Slots types}
    {name : String} {doc : Doc} (hslots : fields.Fill slots)
    (hput : fields.put slots name doc = .ok next) : fields.Fill next := by
  induction fields with
  | nil => trivial
  | cons field rest ih =>
      obtain ⟨slot, slots⟩ := slots
      obtain ⟨hslot, hrest⟩ := hslots
      by_cases hname : name = field.name
      · subst hname
        cases slot with
        | some a =>
            simp only [Fields.put, ↓reduceIte] at hput
            cases hput
        | none =>
            simp only [Fields.put, ↓reduceIte] at hput
            obtain ⟨a, hread, hnext⟩ := bind_eq_ok hput
            cases hnext
            refine ⟨?_, hrest⟩
            intro b hb
            cases hb
            exact ⟨doc, under_eq_ok hread⟩
      · cases slot <;>
        · simp only [Fields.put, hname, ↓reduceIte] at hput
          obtain ⟨after, hafter, hnext⟩ := bind_eq_ok hput
          cases hnext
          exact ⟨hslot, ih hrest hafter⟩

theorem Fields.Fill.putAll {types : List Type} {fields : Fields types}
    {members : List (Doc × Doc)} {slots next : Slots types} (hslots : fields.Fill slots)
    (hputs : fields.putAll slots members = .ok next) : fields.Fill next := by
  induction members generalizing slots with
  | nil =>
      cases hputs
      exact hslots
  | cons member members ih =>
      obtain ⟨nameDoc, doc⟩ := member
      cases nameDoc with
      | text name =>
          cases name with
          | none => cases hputs
          | some name =>
              obtain ⟨after, hafter, hnext⟩ := bind_eq_ok hputs
              exact ih (hslots.put hafter) hnext
      | null | bool | number | list | record | broken => cases hputs

theorem Fields.complete_cons {α : Type} {types : List Type} (field : Field α)
    (rest : Fields types) (slot : Option α) (slots : Slots types) :
    (Fields.cons field rest).complete (slot, slots) =
      match slot <|> field.absent with
      | none => refuse (.missingField field.name)
      | some a => rest.complete slots >>= fun row => .ok (a, row) := rfl

theorem Fields.Fill.complete {types : List Type} {fields : Fields types} {slots : Slots types}
    {row : Row types} (hslots : fields.Fill slots) (hrow : fields.complete slots = .ok row) :
    fields.Yield row := by
  induction fields with
  | nil => trivial
  | cons field rest ih =>
      obtain ⟨slot, slots⟩ := slots
      obtain ⟨hslot, hrest⟩ := hslots
      have hcomplete := (Fields.complete_cons field rest slot slots).symm.trans hrow
      split at hcomplete
      · cases hcomplete
      · next a hvalue =>
          obtain ⟨after, hafter, hnext⟩ := bind_eq_ok hcomplete
          cases hnext
          refine ⟨?_, ih hrest hafter⟩
          cases slot with
          | some b =>
              cases hvalue
              exact Or.inl (hslot a rfl)
          | none => exact Or.inr hvalue

theorem Fields.yield_of_readList {types : List Type} {expected : String} {closed : Bool}
    {fields : Fields types} {index : Nat} {docs : List Doc} {row : Row types}
    (hrow : fields.readList expected closed index docs = .ok row) : fields.Yield row := by
  induction fields generalizing index docs with
  | nil => trivial
  | cons field rest ih =>
      cases docs with
      | nil =>
          simp only [Fields.readList] at hrow
          split at hrow
          · cases hrow
          · split at hrow
            · cases hrow
            · next a habsent =>
                obtain ⟨after, hafter, hnext⟩ := bind_eq_ok hrow
                cases hnext
                exact ⟨Or.inr habsent, ih hafter⟩
      | cons doc docs =>
          simp only [Fields.readList] at hrow
          obtain ⟨a, hread, hrow⟩ := bind_eq_ok hrow
          obtain ⟨after, hafter, hnext⟩ := bind_eq_ok hrow
          cases hnext
          exact ⟨Or.inl ⟨doc, under_eq_ok hread⟩, ih hafter⟩

/-- A structure that is read has its values from its fields. -/
theorem Shape.yield_of_yields {α : Type} {shape : Shape α} {a : α} (ha : shape.codec.Yields a) :
    ∃ row, shape.ofRow row = a ∧ shape.fields.Yield row := by
  obtain ⟨doc, hread⟩ := ha
  simp only [Shape.codec] at hread
  split at hread
  · obtain ⟨slots, hslots, hread⟩ := bind_eq_ok hread
    split at hread
    · obtain ⟨row, hrow, hread⟩ := bind_eq_ok hread
      cases hread
      exact ⟨row, rfl, (shape.fields.fill_unknown.putAll hslots).complete hrow⟩
    · cases hread
  · obtain ⟨row, hrow, hread⟩ := bind_eq_ok hread
    cases hread
    exact ⟨row, rfl, Fields.yield_of_readList hrow⟩
  · next hrecord hlist =>
      cases doc with
      | record members closed => exact absurd rfl (hrecord members closed)
      | list docs closed => exact absurd rfl (hlist docs closed)
      | text s => cases s <;> cases hread
      | number n =>
          simp only [mismatch] at hread
          split at hread <;> cases hread
      | null | bool | broken => cases hread

theorem Codec.yields_of_readOctets {α : Type} {codec : Codec α} {octets : List UInt8} {a : α}
    (hread : codec.readOctets octets = .ok a) : codec.Yields a := by
  simp only [Codec.readOctets, Codec.readText] at hread
  obtain ⟨b, hb, hread⟩ := bind_eq_ok hread
  split at hread
  · cases hread
    exact ⟨_, hb⟩
  · cases hread

end Muster.Json
