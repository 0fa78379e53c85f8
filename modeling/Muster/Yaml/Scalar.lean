import Muster.Text.Decimal
import Muster.Text.Hexadecimal
import Muster.Yaml.Cursor
/-!
Scalars of a YAML text: plain, quoted and block ones. Line breaks inside a plain or quoted scalar are
folded: one break becomes a space, and of several the first one is dropped.
-/
namespace Muster.Yaml

open Muster.Text (hexValue?)

/-- How a scalar is written, as far as it counts for what it means. -/
inductive Style
  | plain
  | quoted
  | literal
  | folded
deriving Repr, DecidableEq

/-- What stands between two parts of a scalar: blanks in a line, or breaks with the blanks around
them thrown away. -/
inductive Gap
  | blanks (cs : List Char)
  | breaks (first more : List Char)
deriving Repr, DecidableEq

def Gap.text : Gap → List Char
  | .blanks cs => cs
  | .breaks ['\n'] [] => [' ']
  | .breaks ['\n'] more => more
  | .breaks first more => first ++ more

def Gap.hasBreak : Gap → Bool
  | .blanks _ => false
  | .breaks _ _ => true

def Gap.pushBlank (gap : Gap) (c : Char) : Gap :=
  match gap with
  | .blanks cs => .blanks (cs ++ [c])
  | gap => gap

def Gap.pushBreak (gap : Gap) (text : List Char) : Gap :=
  match gap with
  | .blanks _ => .breaks text []
  | .breaks first more => .breaks first (more ++ text)

/-- Extends a gap over the blanks and breaks from a place on. A tab that stands before the given
column in a later line is refused. -/
def takeGap (column : Int) : Nat → Gap → Cursor → Option (Gap × Cursor)
  | 0, _, _ => none
  | fuel + 1, gap, cursor =>
      match cursor.rest with
      | c :: _ =>
          if isBlank c then
            if gap.hasBreak ∧ cursor.column < column ∧ c = '\t' then none
            else takeGap column fuel (gap.pushBlank c) (cursor.skip 1)
          else if isBreak c then
            let (text, cursor) := cursor.takeBreak
            takeGap column fuel (gap.pushBreak text) cursor
          else some (gap, cursor)
      | [] => some (gap, cursor)

/-- A character that separates the parts of a flow collection. -/
def isFlowMark (c : Char) : Bool :=
  c = ',' || c = '[' || c = ']' || c = '\x7b' || c = '\x7d'

/-- The part of a plain scalar up to the next blank, break or mark that ends it. In a flow
collection a colon before a separating mark is refused. -/
def takePlainPart (flow : Bool) : Nat → Cursor → Option (List Char × Cursor)
  | 0, _ => none
  | fuel + 1, cursor =>
      match cursor.rest with
      | [] => some ([], cursor)
      | c :: rest =>
          if isBlank c ∨ isBreak c then some ([], cursor)
          else if flow ∧ c = ':' ∧ rest.head?.any (fun n => isFlowMark n || n = '?') then none
          else if (c = ':' ∧ cursor.isGapAt 1) ∨ (flow ∧ isFlowMark c) then some ([], cursor)
          else do
            let (part, cursor) ← takePlainPart flow fuel (cursor.skip 1)
            some (c :: part, cursor)

/-- The parts of a plain scalar behind a gap, with the gaps in between, and the gap that was met
last. -/
def takePlainFrom (flow : Bool) (column : Int) :
    Nat → Gap → Cursor → Option (List Char × Gap × Cursor)
  | 0, _, _ => none
  | fuel + 1, gap, cursor =>
      if cursor.isAnyDocumentMark ∨ cursor.head? = some '#' then some ([], gap, cursor)
      else do
        let (part, cursor) ← takePlainPart flow (cursor.rest.length + 1) cursor
        let text := if part.isEmpty then [] else gap.text ++ part
        let start := if part.isEmpty then gap else .blanks []
        if cursor.at fun c => isBlank c || isBreak c then
          let (gap, cursor) ← takeGap column (cursor.rest.length + 1) start cursor
          if !flow ∧ cursor.column < column then some (text, gap, cursor)
          else do
            let (more, gap, cursor) ← takePlainFrom flow column fuel gap cursor
            some (text ++ more, gap, cursor)
        else some (text, start, cursor)

/-- A plain scalar, whether a break follows it, and the place behind it. In a block it ends with the
first line that does not lie deeper than its parent. -/
def takePlain (flow : Bool) (indent : Int) (cursor : Cursor) :
    Option (List Char × Bool × Cursor) := do
  let (text, gap, cursor) ←
    takePlainFrom flow (indent + 1) (cursor.rest.length + 1) (.blanks []) cursor
  some (text, gap.hasBreak, cursor)

/-- The character that a letter behind a backslash stands for in double quotes. -/
def escaped? (c : Char) : Option Char :=
  match c with
  | '0' => some '\x00'
  | 'a' => some '\x07'
  | 'b' => some '\x08'
  | 't' | '\t' => some '\t'
  | 'n' => some '\n'
  | 'v' => some '\x0b'
  | 'f' => some '\x0c'
  | 'r' => some '\r'
  | 'e' => some '\x1b'
  | ' ' | '"' | '/' | '\\' => some c
  | 'N' => some '\x85'
  | '_' => some '\xa0'
  | 'L' => some '\u2028'
  | 'P' => some '\u2029'
  | _ => none

/-- How many hexadecimal digits follow a letter behind a backslash. -/
def escapeDigits? (c : Char) : Option Nat :=
  match c with
  | 'x' => some 2
  | 'u' => some 4
  | 'U' => some 8
  | _ => none

/-- The character with the number that hexadecimal digits write. -/
def hexChar? (digits : List Char) : Option Char := do
  let n ← hexValue? digits
  if n ≤ 0xD7FF ∨ (0xE000 ≤ n ∧ n ≤ 0x10FFFF) then some (Char.ofNat n) else none

/-- The escaped character here, and the place behind it. -/
def takeEscape (cursor : Cursor) : Option (Char × Cursor) :=
  match cursor.rest with
  | '\\' :: c :: rest =>
      match escapeDigits? c with
      | some count =>
          let digits := rest.take count
          if digits.length = count then
            (hexChar? digits).map fun c => (c, cursor.skip (2 + count))
          else none
      | none => (escaped? c).map fun c => (c, cursor.skip 2)
  | _ => none

/-- Why a part of a quoted scalar ends: at the closing quote, at a blank or break, or at a line break
that a backslash takes away. -/
inductive PartEnd
  | closing
  | gap
  | joined
deriving Repr, DecidableEq

/-- The part of a quoted scalar up to the next place where it may end. -/
def takeQuotedPart (single : Bool) : Nat → Cursor → Option (List Char × PartEnd × Cursor)
  | 0, _ => none
  | fuel + 1, cursor =>
      let go (c : Char) (cursor : Cursor) : Option (List Char × PartEnd × Cursor) := do
        let (part, ending, cursor) ← takeQuotedPart single fuel cursor
        some (c :: part, ending, cursor)
      match cursor.rest with
      | [] => some ([], .gap, cursor)
      | c :: rest =>
          if isBlank c ∨ isBreak c then some ([], .gap, cursor)
          else if single ∧ c = '\'' ∧ rest.head? = some '\'' then go c (cursor.skip 2)
          else if c = (if single then '\'' else '"') then some ([], .closing, cursor.skip 1)
          else if !single ∧ c = '\\' then
            if rest.head?.any isBreak then some ([], .joined, (cursor.skip 1).skipBreak)
            else do
              let (c, cursor) ← takeEscape cursor
              go c cursor
          else go c (cursor.skip 1)

/-- The parts of a quoted scalar from a place behind its opening quote, with the gaps in between. -/
def takeQuotedFrom (single : Bool) : Nat → Cursor → Option (List Char × Cursor)
  | 0, _ => none
  | fuel + 1, cursor =>
      if cursor.isAnyDocumentMark ∨ cursor.rest.isEmpty then none
      else do
        let (part, ending, cursor) ← takeQuotedPart single (cursor.rest.length + 1) cursor
        if ending = .closing then some (part, cursor)
        else if ending = .joined ∧ cursor.head? = some (if single then '\'' else '"') then
          some (part, cursor.skip 1)
        else
          let start : Gap := if ending = .joined then .breaks [] [] else .blanks []
          let (gap, cursor) ← takeGap 0 (cursor.rest.length + 1) start cursor
          let (more, cursor) ← takeQuotedFrom single fuel cursor
          some (part ++ gap.text ++ more, cursor)

/-- A quoted scalar, from its opening quote on. -/
def takeQuoted (single : Bool) (cursor : Cursor) : Option (List Char × Cursor) :=
  takeQuotedFrom single (cursor.rest.length + 1) (cursor.skip 1)

/-- What becomes of the line breaks at the end of a block scalar. -/
inductive Chomping
  | strip
  | clip
  | keep
deriving Repr, DecidableEq

/-- The header of a block scalar behind its first mark: the chomping, and the depth if it is
given. -/
def takeBlockHeader (cursor : Cursor) : Option (Chomping × Option Nat × Cursor) :=
  let (chomping, cursor) := chompingOf cursor
  match cursor.rest with
  | c :: _ =>
      if c.isDigit then
        if c = '0' then none
        else
          let depth := c.toNat - '0'.toNat
          let cursor := cursor.skip 1
          match chomping with
          | some chomping => some (chomping, some depth, cursor)
          | none =>
              let (chomping, cursor) := chompingOf cursor
              some (chomping.getD .clip, some depth, cursor)
      else some (chomping.getD .clip, none, cursor)
  | [] => some (chomping.getD .clip, none, cursor)
where
  chompingOf (cursor : Cursor) : Option Chomping × Cursor :=
    match cursor.rest with
    | '+' :: _ => (some .keep, cursor.skip 1)
    | '-' :: _ => (some .strip, cursor.skip 1)
    | _ => (none, cursor)

/-- The line breaks of empty lines, the greatest column that was reached, and the place in the first
line that is not empty. A line counts as empty if it ends at or before the depth; a tab is refused
before it. -/
def takeEmptyLines (depth : Option Nat) :
    Nat → List Char → Nat → Cursor → Option (List Char × Nat × Cursor)
  | 0, _, _, _ => none
  | fuel + 1, breaks, deepest, cursor =>
      let spaces := (cursor.rest.takeWhile (· = ' ')).length
      let count := match depth with
        | none => spaces
        | some depth => min spaces (depth - cursor.column)
      let cursor := cursor.skip count
      let deepest := max deepest cursor.column
      if depth.all (cursor.column < ·) ∧ cursor.head? = some '\t' then none
      else if cursor.at isBreak then
        let (text, cursor) := cursor.takeBreak
        takeEmptyLines depth fuel (breaks ++ text) deepest cursor
      else some (breaks, deepest, cursor)

/-- The lines of a block scalar at its depth: the text, the break behind the last line, and those of
the empty lines behind it. In a folded scalar a single break between lines that do not begin with a
blank is a space. -/
def takeBlockLines (folded : Bool) (depth : Nat) :
    Nat → List Char → List Char → Bool → Cursor → Option (List Char × List Char × List Char × Cursor)
  | 0, _, _, _, _ => none
  | fuel + 1, lead, empty, leadBlank, cursor =>
      if cursor.column = depth ∧ !cursor.rest.isEmpty then do
        let blank := cursor.at isBlank
        let join :=
          if folded ∧ lead = ['\n'] ∧ !leadBlank ∧ !blank then
            (if empty.isEmpty then [' '] else empty)
          else lead ++ empty
        let (line, cursor) := cursor.takeWhile (!isBreak ·)
        let (lead, cursor) := cursor.takeBreak
        let (empty, _, cursor) ← takeEmptyLines (some depth) (cursor.rest.length + 1) [] 0 cursor
        let (text, lead, empty, cursor) ← takeBlockLines folded depth fuel lead empty blank cursor
        some (join ++ line ++ text, lead, empty, cursor)
      else some ([], lead, empty, cursor)

/-- A block scalar, from its mark on. Without a given depth its lines are as deep as the first one
that is not empty, and deeper than the parent. -/
def takeBlock (folded : Bool) (indent : Int) (cursor : Cursor) : Option (List Char × Cursor) := do
  let (chomping, given, cursor) ← takeBlockHeader (cursor.skip 1)
  let cursor ← cursor.finishLine?
  let depth? := given.map fun depth => (max indent 0).toNat + depth
  let (empty, deepest, cursor) ← takeEmptyLines depth? (cursor.rest.length + 1) [] 0 cursor
  let depth := depth?.getD (max 1 (max deepest (indent + 1).toNat))
  let (text, lead, empty, cursor) ←
    takeBlockLines folded depth (cursor.rest.length + 1) [] empty false cursor
  let tail := match chomping with
    | .strip => []
    | .clip => lead
    | .keep => lead ++ empty
  some (text ++ tail, cursor)

end Muster.Yaml
