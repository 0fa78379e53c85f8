import Muster.Json.Reader
import Muster.Proofs.DecimalReading
/-!
Reading undoes writing for JSON: the text of a value is read as the document of that value, with
nothing left. Each part of a text is read off its head, whatever follows it, by induction along the
value.
-/
namespace Muster.Json

open Muster.Text

theorem dropSpace_cons {c : Char} (hc : isSpace (some c) = false) (rest : Glyphs) :
    dropSpace (some c :: rest) = some c :: rest := by
  rw [dropSpace, List.dropWhile_cons_of_neg (by simp [hc])]

/-- The piece stands for the character, whatever follows. -/
def Piece.Spells (piece : Piece) (c : Char) : Prop :=
  ∀ rest, assemble (piece :: rest) = (assemble rest).map (c :: ·)

theorem Piece.spells_char (c : Char) : (Piece.char c).Spells c :=
  fun _ => rfl

/-- A unit that is no surrogate stands for the character with its number. -/
theorem Piece.spells_unit {c : Char} (hc : c.toNat < 0x20) : (Piece.unit c.toNat).Spells c := by
  have hhigh : isHighSurrogate c.toNat = false := by
    simp only [isHighSurrogate, Bool.and_eq_false_iff, decide_eq_false_iff_not]
    omega
  have hlow : isLowSurrogate c.toNat = false := by
    simp only [isLowSurrogate, Bool.and_eq_false_iff, decide_eq_false_iff_not]
    omega
  intro rest
  rcases rest with _ | ⟨_ | _ | n, rest⟩ <;> simp [assemble, hhigh, hlow, Char.ofNat_toNat]

theorem hexDigit?_digitChar {n : Nat} (hn : n < 16) : hexDigit? n.digitChar = some n := by
  have hall : ∀ digit : Fin 16, hexDigit? digit.val.digitChar = some digit.val := by decide
  exact hall ⟨n, hn⟩

theorem hexUnit?_octetDigits {n : Nat} (hn : n < 256) :
    hexUnit? (some '0') (some '0') (some (Nat.digitChar (n / 16))) (some (Nat.digitChar (n % 16))) =
      some n := by
  have hzero : hexDigit? '0' = some 0 := by decide
  have hupper := hexDigit?_digitChar (n := n / 16) (by omega)
  have hlower := hexDigit?_digitChar (n := n % 16) (by omega)
  simp [hexUnit?, hexValue?, hzero, hupper, hlower]
  omega

theorem takePieces_letter {letter c : Char} (hletter : letter ≠ 'u')
    (hmeaning : unescape? letter = some c) (text : Glyphs) :
    takePieces (some '\\' :: some letter :: text) =
      (takePieces text).map fun found => (.char c :: found.1, found.2) := by
  rw [takePieces]
  · rw [hmeaning]
    cases takePieces text <;> rfl
  · intros
    contradiction

theorem takePieces_plain {c : Char} (hquote : c ≠ '"') (hslash : c ≠ '\\') (hc : ¬ c.toNat < 0x20)
    (text : Glyphs) :
    takePieces (some c :: text) =
      (takePieces text).map fun found => (.char c :: found.1, found.2) := by
  rw [takePieces]
  · rw [if_neg (by simp [hc, hslash])]
    cases takePieces text <;> rfl
  · exact hquote
  · intros
    contradiction
  · intros
    contradiction

theorem takePieces_unit {a b c d : Option Char} {n : Nat} (hunit : hexUnit? a b c d = some n)
    (text : Glyphs) :
    takePieces (some '\\' :: some 'u' :: a :: b :: c :: d :: text) =
      (takePieces text).map fun found => (.unit n :: found.1, found.2) := by
  rw [takePieces, hunit]
  cases takePieces text <;> rfl

/-- The ways to write a character: with a letter of its own, with its number, or as it is. -/
theorem escape_cases (c : Char) :
    (∃ letter, letter ≠ 'u' ∧ unescape? letter = some c ∧ escape c = ['\\', letter]) ∨
    (c.toNat < 0x20 ∧
      escape c = ['\\', 'u', '0', '0', Nat.digitChar (c.toNat / 16), Nat.digitChar (c.toNat % 16)]) ∨
    (c ≠ '"' ∧ c ≠ '\\' ∧ ¬ c.toNat < 0x20 ∧ escape c = [c]) := by
  have hletter : ∀ letter special, letter ≠ 'u' → unescape? letter = some special →
      escape special = ['\\', letter] → c = special →
        ∃ letter, letter ≠ 'u' ∧ unescape? letter = some c ∧ escape c = ['\\', letter] := by
    rintro letter special hother hmeaning hescape rfl
    exact ⟨letter, hother, hmeaning, hescape⟩
  by_cases hquote : c = '"'
  · exact Or.inl (hletter '"' _ (by decide) (by decide) (by decide) hquote)
  by_cases hslash : c = '\\'
  · exact Or.inl (hletter '\\' _ (by decide) (by decide) (by decide) hslash)
  by_cases hback : c = '\x08'
  · exact Or.inl (hletter 'b' _ (by decide) (by decide) (by decide) hback)
  by_cases hfeed : c = '\x0c'
  · exact Or.inl (hletter 'f' _ (by decide) (by decide) (by decide) hfeed)
  by_cases hline : c = '\n'
  · exact Or.inl (hletter 'n' _ (by decide) (by decide) (by decide) hline)
  by_cases hreturn : c = '\r'
  · exact Or.inl (hletter 'r' _ (by decide) (by decide) (by decide) hreturn)
  by_cases htab : c = '\t'
  · exact Or.inl (hletter 't' _ (by decide) (by decide) (by decide) htab)
  refine Or.inr ?_
  simp only [escape, hquote, hslash, hback, hfeed, hline, hreturn, htab, ↓reduceIte]
  by_cases hcontrol : c.toNat < 0x20
  · have hoctet : (UInt8.ofNat c.toNat).toNat = c.toNat := by
      rw [UInt8.toNat_ofNat']
      exact Nat.mod_eq_of_lt (by omega)
    rw [if_pos hcontrol, octetDigits, hoctet]
    exact Or.inl ⟨hcontrol, rfl⟩
  · rw [if_neg hcontrol]
    exact Or.inr ⟨hquote, hslash, hcontrol, rfl⟩

/-- A written character is read as a piece that stands for it. -/
theorem takePieces_escape (c : Char) (text : Glyphs) :
    ∃ piece : Piece, piece.Spells c ∧ takePieces ((escape c).map some ++ text) =
      (takePieces text).map fun found => (piece :: found.1, found.2) := by
  rcases escape_cases c with ⟨letter, hletter, hmeaning, hescape⟩ | ⟨hcontrol, hescape⟩ |
    ⟨hquote, hslash, hcontrol, hescape⟩
  · rw [hescape]
    exact ⟨.char c, Piece.spells_char c, takePieces_letter hletter hmeaning text⟩
  · rw [hescape]
    exact ⟨.unit c.toNat, Piece.spells_unit hcontrol,
      takePieces_unit (hexUnit?_octetDigits (by omega)) text⟩
  · rw [hescape]
    exact ⟨.char c, Piece.spells_char c, takePieces_plain hquote hslash hcontrol text⟩

/-- The pieces up to the closing quote of a written text stand for its characters. -/
theorem takePieces_escaped (chars : List Char) (rest : Glyphs) :
    ∃ pieces, assemble pieces = some chars ∧
      takePieces ((chars.flatMap escape).map some ++ some '"' :: rest) = some (pieces, rest) := by
  induction chars with
  | nil => exact ⟨[], rfl, by simp [takePieces]⟩
  | cons c chars ih =>
      obtain ⟨pieces, hpieces, htake⟩ := ih
      obtain ⟨piece, hspells, hpiece⟩ := takePieces_escape c
        ((chars.flatMap escape).map some ++ some '"' :: rest)
      refine ⟨piece :: pieces, ?_, ?_⟩
      · rw [hspells, hpieces, Option.map_some]
      · rw [List.flatMap_cons, List.map_append, List.append_assoc, hpiece, htake, Option.map_some]

theorem takeText_textChars (s : String) (rest : Glyphs) :
    takeText ((s.toList.flatMap escape).map some ++ some '"' :: rest) =
      (.text (some s), rest) := by
  obtain ⟨pieces, hpieces, htake⟩ := takePieces_escaped s.toList rest
  simp only [takeText, htake, hpieces, Option.map_some, String.ofList_toList]

/-- What stands behind a number, so that it is read no further. -/
def EndsNumber (rest : Glyphs) : Prop :=
  ∀ c tail, rest = some c :: tail → isDigit c = false ∧ c ≠ '.' ∧ c ≠ 'e' ∧ c ≠ 'E'

theorem endsNumber_nil : EndsNumber [] := by
  intro c tail hsame
  cases hsame

theorem endsNumber_cons {c : Char} (hc : isDigit c = false ∧ c ≠ '.' ∧ c ≠ 'e' ∧ c ≠ 'E')
    (rest : Glyphs) : EndsNumber (some c :: rest) := by
  intro first tail hsame
  cases hsame
  exact hc

theorem takeDigitRun_of_endsNumber {rest : Glyphs} (hrest : EndsNumber rest) :
    takeDigitRun rest = ([], rest) := by
  rcases rest with _ | ⟨_ | c, tail⟩
  · rfl
  · rfl
  · have hc := (hrest c tail rfl).1
    simp [takeDigitRun, hc]

theorem takeDigitRun_digits {digits : List Char} (hdigits : ∀ c ∈ digits, isDigit c = true)
    {rest : Glyphs} (hrest : EndsNumber rest) :
    takeDigitRun (digits.map some ++ rest) = (digits, rest) := by
  induction digits with
  | nil => exact takeDigitRun_of_endsNumber hrest
  | cons c digits ih =>
      have hc := hdigits c List.mem_cons_self
      have hrun := ih fun d hd => hdigits d (List.mem_cons_of_mem c hd)
      simp [takeDigitRun, hc, hrun]

theorem takeWhole_natDigits (n : Nat) {rest : Glyphs} (hrest : EndsNumber rest) :
    takeWhole ((natDigits n).map some ++ rest) = some (natDigits n, rest) := by
  have hrun := takeDigitRun_digits (isDigit_of_mem_natDigits n) hrest
  have hsome : takeSomeDigits ((natDigits n).map some ++ rest) = some (natDigits n, rest) := by
    rw [takeSomeDigits, hrun]
    cases hdigits : natDigits n with
    | nil => exact absurd hdigits (natDigits_ne_nil n)
    | cons c digits => rfl
  have hhead : ¬ ((natDigits n).head? = some '0' ∧ 1 < (natDigits n).length) := by
    rintro ⟨hzero, hlong⟩
    rcases Nat.eq_zero_or_pos n with rfl | hpositive
    · exact absurd hlong (by decide)
    · exact head?_natDigits_of_pos hpositive hzero
  rw [takeWhole, hsome]
  exact if_neg hhead

theorem takeFraction_of_endsNumber {rest : Glyphs} (hrest : EndsNumber rest) :
    takeFraction rest = some ([], rest) := by
  unfold takeFraction
  split
  · next tail => exact absurd rfl (hrest '.' tail rfl).2.1
  · rfl

theorem takeExponent_of_endsNumber {rest : Glyphs} (hrest : EndsNumber rest) :
    takeExponent rest = some (none, rest) := by
  unfold takeExponent
  split
  · next tail => exact absurd rfl (hrest 'e' tail rfl).2.2.1
  · next tail => exact absurd rfl (hrest 'E' tail rfl).2.2.2
  · rfl

/-- The sign of a number and the digits behind it. -/
theorem takeNumeral_digits (negative : Bool) (n : Nat) {rest : Glyphs} (hrest : EndsNumber rest) :
    takeNumeral ((if negative then [some '-'] else []) ++ ((natDigits n).map some ++ rest)) =
      some (⟨negative, natDigits n, [], none⟩, rest) := by
  have hwhole := takeWhole_natDigits n hrest
  cases negative with
  | true =>
      simp [takeNumeral, hwhole, takeFraction_of_endsNumber hrest,
        takeExponent_of_endsNumber hrest]
  | false =>
      -- the first digit is no minus sign
      cases hdigits : natDigits n with
      | nil => exact absurd hdigits (natDigits_ne_nil n)
      | cons c digits =>
          have hc := isDigit_of_mem_natDigits n c (by rw [hdigits]; exact List.mem_cons_self)
          have hsign : c ≠ '-' := by
            rintro rfl
            exact absurd hc (by decide)
          rw [hdigits] at hwhole
          simp only [List.map_cons, List.cons_append] at hwhole
          simp [takeNumeral, hsign, hwhole, takeFraction_of_endsNumber hrest,
            takeExponent_of_endsNumber hrest]

theorem takeNumeral_ofInt (n : Int) {rest : Glyphs} (hrest : EndsNumber rest) :
    takeNumeral ((ofInt n).toList.map some ++ rest) = some (Numeral.ofInt n, rest) := by
  have hread := takeNumeral_digits (decide (n < 0)) n.natAbs hrest
  rw [toList_ofInt, Numeral.ofInt, List.map_append, List.append_assoc, ← hread]
  congr 2
  by_cases hnegative : n < 0 <;> simp [hnegative]

/-- How a value begins: with no blank, and with no sign that closes what it stands in. -/
structure BeginsValue (c : Char) : Prop where
  space : isSpace (some c) = false
  bracket : c ≠ ']'
  brace : c ≠ '\x7d'

instance (c : Char) : Decidable (BeginsValue c) :=
  decidable_of_iff (isSpace (some c) = false ∧ c ≠ ']' ∧ c ≠ '\x7d')
    ⟨fun h => ⟨h.1, h.2.1, h.2.2⟩, fun h => ⟨h.space, h.bracket, h.brace⟩⟩

theorem ofInt_head (n : Int) :
    ∃ c tail, (ofInt n).toList = c :: tail ∧ (c = '-' ∨ isDigit c = true) := by
  rw [toList_ofInt]
  split
  · exact ⟨'-', _, rfl, Or.inl rfl⟩
  · cases hdigits : natDigits n.natAbs with
    | nil => exact absurd hdigits (natDigits_ne_nil _)
    | cons c digits =>
        refine ⟨c, digits, rfl, Or.inr ?_⟩
        apply isDigit_of_mem_natDigits n.natAbs
        rw [hdigits]
        exact List.mem_cons_self

/-- A sign or a digit is none of the characters that are neither. -/
theorem numberHead_ne {c : Char} (hc : c = '-' ∨ isDigit c = true) (others : List Char)
    (hothers : (others.all fun other => other ≠ '-' && !isDigit other) = true) :
    ∀ other ∈ others, c ≠ other := by
  rintro other hmem rfl
  have hneither := List.all_eq_true.1 hothers c hmem
  rcases hc with rfl | hdigit
  · simp at hneither
  · simp [hdigit] at hneither

theorem isSpace_numberHead {c : Char} (hc : c = '-' ∨ isDigit c = true) :
    isSpace (some c) = false := by
  have hne := numberHead_ne hc [' ', '\n', '\t', '\r'] (by decide)
  simp only [List.forall_mem_cons] at hne
  simp [isSpace, hne]

theorem chars_head (value : Value) : ∃ c tail, value.chars = c :: tail ∧ BeginsValue c := by
  cases value with
  | null => exact ⟨'n', _, by rw [Value.chars], by decide⟩
  | bool b =>
      cases b with
      | true => exact ⟨'t', _, by rw [Value.chars], by decide⟩
      | false => exact ⟨'f', _, by rw [Value.chars], by decide⟩
  | integer n =>
      obtain ⟨c, tail, hchars, hc⟩ := ofInt_head n
      have hne := numberHead_ne hc [']', '\x7d'] (by decide)
      exact ⟨c, tail, by rw [Value.chars, hchars], isSpace_numberHead hc,
        hne ']' (by simp), hne '\x7d' (by simp)⟩
  | text s => exact ⟨'"', _, by rw [Value.chars, textChars, List.cons_append], by decide⟩
  | list items => exact ⟨'[', _, by rw [Value.chars], by decide⟩
  | record members => exact ⟨'\x7b', _, by rw [Value.chars], by decide⟩

theorem readValue_text (fuel : Nat) (s : String) (rest : Glyphs) :
    readValue (fuel + 1) ((textChars s).map some ++ rest) = (.text (some s), rest) := by
  have htext := takeText_textChars s rest
  simp only [textChars, List.cons_append, List.map_cons, List.map_append, List.map_nil,
    List.append_assoc, List.nil_append]
  rw [readValue, dropSpace_cons (by decide)]
  exact htext

theorem readValue_name {fuel : Nat} {name : String} (hfuel : (textChars name).length ≤ fuel)
    (rest : Glyphs) :
    readValue fuel ((textChars name).map some ++ rest) = (.text (some name), rest) := by
  cases fuel with
  | zero => simp [textChars] at hfuel
  | succ fuel => exact readValue_text fuel name rest

theorem readValue_integer (fuel : Nat) (n : Int) {rest : Glyphs} (hrest : EndsNumber rest) :
    readValue (fuel + 1) ((ofInt n).toList.map some ++ rest) =
      (.number (Numeral.ofInt n), rest) := by
  have hread := takeNumeral_ofInt n hrest
  obtain ⟨c, tail, hchars, hc⟩ := ofInt_head n
  rw [hchars, List.map_cons, List.cons_append] at hread ⊢
  rw [readValue, dropSpace_cons (isSpace_numberHead hc)]
  have hne := numberHead_ne hc ['"', '[', '\x7b', 'n', 't', 'f'] (by decide)
  simp only [List.forall_mem_cons] at hne
  simp [hne, hread]

theorem endsNumber_separator {c : Char} (hc : c = ',' ∨ c = ']' ∨ c = '\x7d') (rest : Glyphs) :
    EndsNumber (some c :: rest) := by
  apply endsNumber_cons
  rcases hc with rfl | rfl | rfl <;> decide

section Steps

variable {fuel : Nat} {text next rest : Glyphs} {c : Char} {tail : Glyphs}

theorem readValue_list (hc : BeginsValue c) {docs : List Doc}
    (hitems : readItems fuel (some c :: tail) = (docs, true, rest)) :
    readValue (fuel + 1) (some '[' :: some c :: tail) = (.list docs true, rest) := by
  rw [readValue, dropSpace_cons (by decide)]
  simp [dropSpace_cons hc.space, hc.bracket, hitems]

theorem readValue_record (hc : BeginsValue c) {docs : List (Doc × Doc)}
    (hmembers : readMembers fuel (some c :: tail) = (docs, true, rest)) :
    readValue (fuel + 1) (some '\x7b' :: some c :: tail) = (.record docs true, rest) := by
  rw [readValue, dropSpace_cons (by decide)]
  simp [dropSpace_cons hc.space, hc.brace, hmembers]

theorem readItems_last {doc : Doc} (hitem : readValue fuel text = (doc, some ']' :: rest)) :
    readItems (fuel + 1) text = ([doc], true, rest) := by
  rw [readItems, hitem]
  simp [dropSpace_cons (by decide : isSpace (some ']') = false)]

theorem readItems_more {doc : Doc} {docs : List Doc} (hc : BeginsValue c)
    (hitem : readValue fuel text = (doc, some ',' :: some c :: tail))
    (hitems : readItems fuel (some c :: tail) = (docs, true, rest)) :
    readItems (fuel + 1) text = (doc :: docs, true, rest) := by
  rw [readItems, hitem]
  simp [dropSpace_cons (by decide : isSpace (some ',') = false), dropSpace_cons hc.space,
    hc.bracket, hitems]

theorem readMembers_last {name : String} {doc : Doc}
    (hname : readValue fuel text = (.text (some name), some ':' :: next))
    (hvalue : readValue fuel next = (doc, some '\x7d' :: rest)) :
    readMembers (fuel + 1) text = ([(.text (some name), doc)], true, rest) := by
  rw [readMembers, hname]
  simp [Doc.isName, dropSpace_cons (by decide : isSpace (some ':') = false), hvalue,
    dropSpace_cons (by decide : isSpace (some '\x7d') = false)]

theorem readMembers_more {name : String} {doc : Doc} {docs : List (Doc × Doc)}
    (hname : readValue fuel text = (.text (some name), some ':' :: next))
    (hvalue : readValue fuel next = (doc, some ',' :: some '"' :: tail))
    (hmembers : readMembers fuel (some '"' :: tail) = (docs, true, rest)) :
    readMembers (fuel + 1) text = ((.text (some name), doc) :: docs, true, rest) := by
  rw [readMembers, hname]
  simp [Doc.isName, dropSpace_cons (by decide : isSpace (some ':') = false), hvalue,
    dropSpace_cons (by decide : isSpace (some ',') = false),
    dropSpace_cons (by decide : isSpace (some '"') = false), hmembers]

end Steps

theorem itemsChars_cons (item second : Value) (items : List Value) :
    itemsChars (item :: second :: items) = item.chars ++ ',' :: itemsChars (second :: items) := by
  rw [itemsChars]
  simp

theorem membersChars_cons (name : String) (value : Value) (second : String × Value)
    (members : List (String × Value)) :
    membersChars ((name, value) :: second :: members) =
      textChars name ++ ':' :: value.chars ++ ',' :: membersChars (second :: members) := by
  rw [membersChars]
  simp

/-- A list of items begins as its first item does. -/
theorem itemsChars_head (item : Value) (items : List Value) :
    ∃ c tail, itemsChars (item :: items) = c :: tail ∧ BeginsValue c := by
  obtain ⟨c, tail, hchars, hc⟩ := chars_head item
  cases items with
  | nil => exact ⟨c, _, by rw [itemsChars, hchars, List.cons_append], hc⟩
  | cons second items => exact ⟨c, _, by rw [itemsChars_cons, hchars, List.cons_append], hc⟩

/-- Members begin with the quote of the first name. -/
theorem membersChars_head (member : String × Value) (members : List (String × Value)) :
    ∃ tail, membersChars (member :: members) = '"' :: tail := by
  obtain ⟨name, value⟩ := member
  cases members with
  | nil =>
      exact ⟨_, by rw [membersChars, textChars, List.cons_append, List.cons_append,
        List.cons_append]⟩
  | cons second members =>
      exact ⟨_, by rw [membersChars_cons, textChars, List.cons_append, List.cons_append,
        List.cons_append]⟩

mutual

/-- The text of a value is read as its document, whatever follows. -/
theorem readValue_chars : ∀ (value : Value) {fuel : Nat} (rest : Glyphs),
    value.chars.length ≤ fuel → EndsNumber rest →
      readValue fuel (value.chars.map some ++ rest) = (value.toDoc, rest)
  | _, 0, _, hfuel, _ => by
      obtain ⟨c, tail, hchars, -⟩ := chars_head ‹Value›
      rw [hchars] at hfuel
      cases hfuel
  | .null, fuel + 1, rest, _, _ => by
      simp only [Value.chars, List.map_cons, List.cons_append]
      rw [readValue, dropSpace_cons (by decide)]
      simp [takeWord, Value.toDoc]
  | .bool true, fuel + 1, rest, _, _ => by
      simp only [Value.chars, List.map_cons, List.cons_append]
      rw [readValue, dropSpace_cons (by decide)]
      simp [takeWord, Value.toDoc]
  | .bool false, fuel + 1, rest, _, _ => by
      simp only [Value.chars, List.map_cons, List.cons_append]
      rw [readValue, dropSpace_cons (by decide)]
      simp [takeWord, Value.toDoc]
  | .integer n, fuel + 1, rest, _, hrest => by
      rw [Value.chars, Value.toDoc]
      exact readValue_integer fuel n hrest
  | .text s, fuel + 1, rest, _, _ => by
      rw [Value.chars, Value.toDoc]
      exact readValue_text fuel s rest
  | .list [], fuel + 1, rest, _, _ => by
      simp only [Value.chars, itemsChars, List.map_cons, List.map_nil, List.cons_append,
        List.nil_append, Value.toDoc, itemDocs]
      rw [readValue, dropSpace_cons (by decide)]
      simp [dropSpace_cons (by decide : isSpace (some ']') = false)]
  | .list (item :: items), fuel + 1, rest, hfuel, _ => by
      rw [Value.chars, List.length_cons] at hfuel
      have hitems := readItems_chars (item :: items) rest (List.cons_ne_nil _ _)
        (Nat.le_of_succ_le_succ hfuel)
      obtain ⟨c, tail, hchars, hc⟩ := itemsChars_head item items
      rw [hchars, List.map_cons, List.cons_append] at hitems
      rw [Value.chars, Value.toDoc, hchars, List.map_cons, List.map_cons, List.cons_append,
        List.cons_append]
      exact readValue_list hc hitems
  | .record [], fuel + 1, rest, _, _ => by
      simp only [Value.chars, membersChars, List.map_cons, List.map_nil, List.cons_append,
        List.nil_append, Value.toDoc, memberDocs]
      rw [readValue, dropSpace_cons (by decide)]
      simp [dropSpace_cons (by decide : isSpace (some '\x7d') = false)]
  | .record (member :: members), fuel + 1, rest, hfuel, _ => by
      rw [Value.chars, List.length_cons] at hfuel
      have hmembers := readMembers_chars (member :: members) rest (List.cons_ne_nil _ _)
        (Nat.le_of_succ_le_succ hfuel)
      obtain ⟨tail, hchars⟩ := membersChars_head member members
      rw [hchars, List.map_cons, List.cons_append] at hmembers
      rw [Value.chars, Value.toDoc, hchars, List.map_cons, List.map_cons, List.cons_append,
        List.cons_append]
      exact readValue_record (by decide) hmembers

/-- The texts of items are read as their documents, up to the bracket behind them. -/
theorem readItems_chars : ∀ (items : List Value) {fuel : Nat} (rest : Glyphs), items ≠ [] →
    (itemsChars items).length ≤ fuel →
      readItems fuel ((itemsChars items).map some ++ rest) = (itemDocs items, true, rest)
  | [], _, _, hitems, _ => absurd rfl hitems
  | item :: items, 0, _, _, hfuel => by
      obtain ⟨c, tail, hchars, -⟩ := itemsChars_head item items
      rw [hchars] at hfuel
      cases hfuel
  | [item], fuel + 1, rest, _, hfuel => by
      simp only [itemsChars, List.length_append, List.length_singleton] at hfuel
      have hitem := readValue_chars item (some ']' :: rest) (Nat.le_of_succ_le_succ hfuel)
        (endsNumber_separator (by decide) rest)
      rw [itemsChars, List.map_append, List.append_assoc]
      exact readItems_last hitem
  | item :: second :: items, fuel + 1, rest, _, hfuel => by
      rw [itemsChars_cons, List.length_append, List.length_cons] at hfuel
      have hitem := readValue_chars item
        (some ',' :: ((itemsChars (second :: items)).map some ++ rest))
        (by omega : item.chars.length ≤ fuel) (endsNumber_separator (by decide) _)
      have hitems := readItems_chars (second :: items) rest (List.cons_ne_nil _ _)
        (by omega : (itemsChars (second :: items)).length ≤ fuel)
      obtain ⟨c, tail, hchars, hc⟩ := itemsChars_head second items
      rw [itemsChars_cons, List.map_append, List.append_assoc, List.map_cons, List.cons_append]
      rw [hchars, List.map_cons, List.cons_append] at hitem hitems ⊢
      exact readItems_more hc hitem hitems

/-- The texts of members are read as their documents, up to the brace behind them. -/
theorem readMembers_chars : ∀ (members : List (String × Value)) {fuel : Nat} (rest : Glyphs),
    members ≠ [] → (membersChars members).length ≤ fuel →
      readMembers fuel ((membersChars members).map some ++ rest) = (memberDocs members, true, rest)
  | [], _, _, hmembers, _ => absurd rfl hmembers
  | member :: members, 0, _, _, hfuel => by
      obtain ⟨tail, hchars⟩ := membersChars_head member members
      rw [hchars] at hfuel
      cases hfuel
  | [(name, value)], fuel + 1, rest, _, hfuel => by
      simp only [membersChars, List.length_append, List.length_cons, List.length_nil] at hfuel
      have hname := readValue_name (by omega : (textChars name).length ≤ fuel)
        (some ':' :: (value.chars.map some ++ some '\x7d' :: rest))
      have hvalue := readValue_chars value (some '\x7d' :: rest)
        (by omega : value.chars.length ≤ fuel) (endsNumber_separator (by decide) rest)
      rw [membersChars]
      simp only [List.map_append, List.map_cons, List.map_nil, List.append_assoc, List.cons_append,
        List.nil_append]
      exact readMembers_last hname hvalue
  | (name, value) :: second :: members, fuel + 1, rest, _, hfuel => by
      simp only [membersChars_cons, List.length_append, List.length_cons] at hfuel
      have hname := readValue_name (by omega : (textChars name).length ≤ fuel)
        (some ':' :: (value.chars.map some ++
          some ',' :: ((membersChars (second :: members)).map some ++ rest)))
      have hvalue := readValue_chars value
        (some ',' :: ((membersChars (second :: members)).map some ++ rest))
        (by omega : value.chars.length ≤ fuel) (endsNumber_separator (by decide) _)
      have hmembers := readMembers_chars (second :: members) rest (List.cons_ne_nil _ _)
        (by omega : (membersChars (second :: members)).length ≤ fuel)
      obtain ⟨tail, hchars⟩ := membersChars_head second members
      rw [membersChars_cons]
      simp only [List.map_append, List.map_cons, List.append_assoc, List.cons_append]
      rw [hchars] at hname hvalue hmembers ⊢
      exact readMembers_more hname hvalue hmembers

end

theorem read_chars (value : Value) : Doc.read (value.chars.map some) = (value.toDoc, true) := by
  have hfuel : value.chars.length ≤ 2 * (value.chars.map some).length + 2 := by
    rw [List.length_map]
    omega
  have hread := readValue_chars value [] hfuel endsNumber_nil
  rw [List.append_nil] at hread
  rw [Doc.read, hread]
  rfl

end Muster.Json
