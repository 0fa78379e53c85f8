/-!
A place in a YAML text: the characters from there on, and where it lies. Line breaks are those of
YAML: line feed, carriage return or both, and the three breaks outside ASCII.
-/
namespace Muster.Yaml

/-- The characters that are left, with the index, line and column of the first one. -/
structure Cursor where
  rest : List Char
  index : Nat
  line : Nat
  column : Nat
deriving Repr, DecidableEq

def Cursor.start (text : List Char) : Cursor :=
  ⟨text, 0, 0, 0⟩

def isBlank (c : Char) : Bool :=
  c = ' ' || c = '\t'

/-- A character that ends a line. -/
def isBreak (c : Char) : Bool :=
  c = '\r' || c = '\n' || c = '\x85' || c = '\u2028' || c = '\u2029'

/-- A letter, a digit, a hyphen or an underscore, as in the names of anchors. -/
def isNameChar (c : Char) : Bool :=
  c.isAlphanum || c = '-' || c = '_'

def Cursor.head? (cursor : Cursor) : Option Char :=
  cursor.rest.head?

def Cursor.at (cursor : Cursor) (test : Char → Bool) : Bool :=
  cursor.rest.head?.any test

/-- Does the text end here, or is the character at a distance a blank or a break? -/
def Cursor.isGapAt (cursor : Cursor) (distance : Nat) : Bool :=
  cursor.rest[distance]?.all fun c => isBlank c || isBreak c

def Cursor.isLineEnd (cursor : Cursor) : Bool :=
  cursor.rest.head?.all isBreak

/-- The place so many characters on, in the same line. -/
def Cursor.skip (cursor : Cursor) (count : Nat) : Cursor :=
  ⟨cursor.rest.drop count, cursor.index + count, cursor.line, cursor.column + count⟩

/-- The characters up to the first one that fails a test, and the place there. -/
def Cursor.takeWhile (cursor : Cursor) (test : Char → Bool) : List Char × Cursor :=
  let taken := cursor.rest.takeWhile test
  (taken, cursor.skip taken.length)

/-- The place of the first character that fails a test. -/
def Cursor.skipWhile (cursor : Cursor) (test : Char → Bool) : Cursor :=
  (cursor.takeWhile test).2

/-- The place in the next line, behind a break of so many characters. -/
def Cursor.nextLine (cursor : Cursor) (count : Nat) : Cursor :=
  ⟨cursor.rest.drop count, cursor.index + count, cursor.line + 1, 0⟩

/-- The line break here as it counts in a text, and the place behind it; nothing where there is
none. -/
def Cursor.takeBreak (cursor : Cursor) : List Char × Cursor :=
  match cursor.rest with
  | '\r' :: '\n' :: _ => (['\n'], cursor.nextLine 2)
  | c :: _ =>
      if c = '\u2028' ∨ c = '\u2029' then ([c], cursor.nextLine 1)
      else if isBreak c then (['\n'], cursor.nextLine 1)
      else ([], cursor)
  | [] => ([], cursor)

/-- The place behind the line break here. -/
def Cursor.skipBreak (cursor : Cursor) : Cursor :=
  cursor.takeBreak.2

/-- The place behind blanks, a comment and the line break, if only those follow in the line. -/
def Cursor.finishLine? (cursor : Cursor) : Option Cursor :=
  let cursor := cursor.skipWhile isBlank
  let cursor := if cursor.head? = some '#' then cursor.skipWhile (!isBreak ·) else cursor
  if cursor.isLineEnd then some cursor.skipBreak else none

/-- Does a line begin here with a mark of three characters that separates documents? -/
def Cursor.isDocumentMark (cursor : Cursor) (mark : Char) : Bool :=
  cursor.column = 0 && cursor.rest.take 3 = [mark, mark, mark] && cursor.isGapAt 3

/-- Does a line begin here with either mark between documents? -/
def Cursor.isAnyDocumentMark (cursor : Cursor) : Bool :=
  cursor.isDocumentMark '-' || cursor.isDocumentMark '.'

/-- A character that a YAML text may hold at all. -/
def isAllowed (c : Char) : Bool :=
  let n := c.toNat
  n = 0x09 || n = 0x0A || n = 0x0D || (0x20 ≤ n && n ≤ 0x7E) || n = 0x85 ||
    (0xA0 ≤ n && n ≤ 0xD7FF) || (0xE000 ≤ n && n ≤ 0xFFFD) || 0x10000 ≤ n

end Muster.Yaml
