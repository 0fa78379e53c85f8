import Muster.Json.Doc
import Muster.Text.Hexadecimal
import Muster.Text.Utf8
/-!
Reading JSON texts. The reader works on characters and gaps, since a gap is allowed in a text whose
value nobody asks for. What is read is a document, and the rest of the text behind it; behind a
syntax error nothing is left.
-/
namespace Muster.Json

open Muster.Text

def isSpace (c : Option Char) : Bool :=
  c = some ' ' || c = some '\n' || c = some '\t' || c = some '\r'

def dropSpace (text : Glyphs) : Glyphs :=
  text.dropWhile isSpace

/-- A part of a text between quotes: a character, a gap, or the UTF-16 unit of an escape. -/
inductive Piece
  | char (c : Char)
  | gap
  | unit (n : Nat)
deriving Repr, DecidableEq

/-- The number that four hexadecimal digits write. -/
def hexUnit? (a b c d : Option Char) : Option Nat := do
  hexValue? [← a, ← b, ← c, ← d]

/-- The character that a backslash and a letter stand for. -/
def unescape? (c : Char) : Option Char :=
  if c = '"' ∨ c = '\\' ∨ c = '/' then some c
  else if c = 'b' then some '\x08'
  else if c = 'f' then some '\x0c'
  else if c = 'n' then some '\n'
  else if c = 'r' then some '\r'
  else if c = 't' then some '\t'
  else none

/-- The pieces up to the closing quote, and the rest of the text behind it. -/
def takePieces : Glyphs → Option (List Piece × Glyphs)
  | [] => none
  | some '"' :: rest => some ([], rest)
  | some '\\' :: some 'u' :: a :: b :: c :: d :: rest => do
      let unit ← hexUnit? a b c d
      let (pieces, rest) ← takePieces rest
      some (.unit unit :: pieces, rest)
  | some '\\' :: some c :: rest => do
      let c ← unescape? c
      let (pieces, rest) ← takePieces rest
      some (.char c :: pieces, rest)
  | none :: rest => do
      let (pieces, rest) ← takePieces rest
      some (.gap :: pieces, rest)
  | some c :: rest =>
      if c.toNat < 0x20 ∨ c = '\\' then none
      else do
        let (pieces, rest) ← takePieces rest
        some (.char c :: pieces, rest)

/-- The two halves of the UTF-16 range of surrogates. -/
def isHighSurrogate (n : Nat) : Bool :=
  0xD800 ≤ n && n ≤ 0xDBFF
def isLowSurrogate (n : Nat) : Bool :=
  0xDC00 ≤ n && n ≤ 0xDFFF

/-- The characters of the pieces; none if there is a gap or a surrogate without its partner. -/
def assemble : List Piece → Option (List Char)
  | [] => some []
  | .char c :: rest => (assemble rest).map (c :: ·)
  | .gap :: _ => none
  | .unit high :: .unit low :: rest =>
      if isHighSurrogate high then
        if isLowSurrogate low then
          let c := Char.ofNat (0x10000 + (high - 0xD800) * 0x400 + (low - 0xDC00))
          (assemble rest).map (c :: ·)
        else none
      else if isLowSurrogate high then none
      else (assemble (.unit low :: rest)).map (Char.ofNat high :: ·)
  | .unit n :: rest =>
      if isHighSurrogate n ∨ isLowSurrogate n then none
      else (assemble rest).map (Char.ofNat n :: ·)

/-- A text behind its opening quote. -/
def takeText (text : Glyphs) : Doc × Glyphs :=
  match takePieces text with
  | some (pieces, rest) => (.text ((assemble pieces).map String.ofList), rest)
  | none => (.broken, [])

def takeDigitRun : Glyphs → List Char × Glyphs
  | some c :: rest =>
      if isDigit c then
        let (digits, rest) := takeDigitRun rest
        (c :: digits, rest)
      else ([], some c :: rest)
  | text => ([], text)

def takeSomeDigits (text : Glyphs) : Option (List Char × Glyphs) :=
  match takeDigitRun text with
  | ([], _) => none
  | found => some found

/-- The whole part of a number: a zero, or digits that do not begin with one. -/
def takeWhole (text : Glyphs) : Option (List Char × Glyphs) := do
  let (digits, rest) ← takeSomeDigits text
  if digits.head? = some '0' ∧ 1 < digits.length then none else some (digits, rest)

def takeFraction (text : Glyphs) : Option (List Char × Glyphs) :=
  match text with
  | some '.' :: rest => takeSomeDigits rest
  | _ => some ([], text)

def takeExponent (text : Glyphs) : Option (Option (Bool × List Char) × Glyphs) :=
  match text with
  | some 'e' :: rest | some 'E' :: rest =>
      let (negative, rest) := match rest with
        | some '+' :: rest => (false, rest)
        | some '-' :: rest => (true, rest)
        | rest => (false, rest)
      (takeSomeDigits rest).map fun (digits, rest) => (some (negative, digits), rest)
  | _ => some (none, text)

def takeNumeral (text : Glyphs) : Option (Numeral × Glyphs) := do
  let (negative, rest) := match text with
    | some '-' :: rest => (true, rest)
    | _ => (false, text)
  let (whole, rest) ← takeWhole rest
  let (fraction, rest) ← takeFraction rest
  let (exponent, rest) ← takeExponent rest
  some (⟨negative, whole, fraction, exponent⟩, rest)

def takeWord (word : List Char) (value : Doc) (text : Glyphs) : Doc × Glyphs :=
  if (word.map some).isPrefixOf text then (value, text.drop word.length) else (.broken, [])

mutual

/-- The value at the head of a text and the rest behind it. The first argument bounds the depth of
the recursion; twice the length of the text is enough. -/
def readValue : Nat → Glyphs → Doc × Glyphs
  | 0, _ => (.broken, [])
  | fuel + 1, text =>
      match dropSpace text with
      | some '"' :: rest => takeText rest
      | some '[' :: rest =>
          match dropSpace rest with
          | some ']' :: rest => (.list [] true, rest)
          | rest =>
              let (items, closed, rest) := readItems fuel rest
              (.list items closed, rest)
      | some '\x7b' :: rest =>
          match dropSpace rest with
          | some '\x7d' :: rest => (.record [] true, rest)
          | rest =>
              let (members, closed, rest) := readMembers fuel rest
              (.record members closed, rest)
      | some 'n' :: rest => takeWord "ull".toList .null rest
      | some 't' :: rest => takeWord "rue".toList (.bool true) rest
      | some 'f' :: rest => takeWord "alse".toList (.bool false) rest
      | rest =>
          match takeNumeral rest with
          | some (n, rest) => (.number n, rest)
          | none => (.broken, [])

/-- The items from the next one on, whether their list is closed, and the rest of the text. -/
def readItems : Nat → Glyphs → List Doc × Bool × Glyphs
  | 0, _ => ([], false, [])
  | fuel + 1, text =>
      let (item, rest) := readValue fuel text
      match dropSpace rest with
      | some ']' :: rest => ([item], true, rest)
      | some ',' :: rest =>
          match dropSpace rest with
          | some ']' :: _ => ([item], false, [])
          | rest =>
              let (items, closed, rest) := readItems fuel rest
              (item :: items, closed, rest)
      | _ => ([item], false, [])

/-- The members from the next one on, whether their object is closed, and the rest of the text. A
name that is no text ends the reading. -/
def readMembers : Nat → Glyphs → List (Doc × Doc) × Bool × Glyphs
  | 0, _ => ([], false, [])
  | fuel + 1, text =>
      let (name, rest) := readValue fuel text
      match name.isName, dropSpace rest with
      | true, some ':' :: rest =>
          let (value, rest) := readValue fuel rest
          match dropSpace rest with
          | some '\x7d' :: rest => ([(name, value)], true, rest)
          | some ',' :: rest =>
              match dropSpace rest with
              | some '"' :: _ =>
                  let (members, closed, rest) := readMembers fuel rest
                  ((name, value) :: members, closed, rest)
              | _ => ([(name, value)], false, [])
          | _ => ([(name, value)], false, [])
      | _, _ => ([(name, .broken)], false, [])

end

/-- The document of a text, and whether only blanks follow it. -/
def Doc.read (text : Glyphs) : Doc × Bool :=
  let (doc, rest) := readValue (2 * text.length + 2) text
  (doc, (dropSpace rest).isEmpty)

end Muster.Json
