import Muster.Text.Utf8
import Muster.Yaml.Scalar
/-!
Tokens of a YAML text. Blocks are told by indentation, and a plain or quoted text turns out to be a
key only at the colon behind it; so the marks that open a block mapping and its first key are put in
front of tokens that have been read before.
-/
namespace Muster.Yaml

open Muster.Text (hexDigit?)

/-- A token. -/
inductive Token
  | documentStart
  | documentEnd
  | version (major minor : Nat)
  | tagLead (handle lead : String)
  | blockSequence
  | blockMapping
  | blockEnd
  | flowSequence
  | flowSequenceEnd
  | flowMapping
  | flowMappingEnd
  | flowEntry
  | blockEntry
  | key
  | value
  | alias (name : String)
  | anchor (name : String)
  | tag (handle rest : String)
  | scalar (style : Style) (text : String)
deriving Repr, DecidableEq

/-- A place where a key may have begun: in front of which token, and where in the text. A key that is
required has to be followed by a colon. -/
structure KeyPlace where
  position : Nat
  required : Bool
  index : Nat
  line : Nat
  column : Nat
deriving Repr, DecidableEq

/-- A scan under way: the tokens so far, the column of the current block and of those around it, and
for the current collection in brackets and those around it the place where a key may have begun. -/
structure Scan where
  cursor : Cursor
  tokens : Array Token
  indent : Int
  outer : List Int
  keyAllowed : Bool
  key : Option KeyPlace
  outerKeys : List (Option KeyPlace)
deriving Repr

def Scan.start (text : List Char) : Scan :=
  ⟨Cursor.start text, #[], -1, [], true, none, []⟩

def Scan.inFlow (scan : Scan) : Bool :=
  !scan.outerKeys.isEmpty

def Scan.push (scan : Scan) (token : Token) : Scan :=
  { scan with tokens := scan.tokens.push token }

/-- The scan with a token put in front of the one with a number. -/
def Scan.insert (scan : Scan) (position : Nat) (token : Token) : Scan :=
  { scan with
    tokens := scan.tokens.extract 0 position |>.push token |>.append
      (scan.tokens.extract position scan.tokens.size) }

def Scan.moveTo (scan : Scan) (cursor : Cursor) : Scan :=
  { scan with cursor }

/-- Skips blanks, comments and line breaks up to the next token. Outside brackets a new line may
begin with a key, and tabs are skipped only where none may begin. -/
def Scan.toNextToken : Nat → Scan → Scan
  | 0, scan => scan
  | fuel + 1, scan =>
      let cursor := scan.cursor
      let cursor :=
        if cursor.column = 0 ∧ cursor.head? = some '\uFEFF' then cursor.skip 1 else cursor
      let tabs := scan.inFlow || !scan.keyAllowed
      let cursor := cursor.skipWhile fun c => c = ' ' || (tabs && c = '\t')
      let cursor := if cursor.head? = some '#' then cursor.skipWhile (!isBreak ·) else cursor
      if cursor.at isBreak then
        toNextToken fuel
          { scan with cursor := cursor.skipBreak, keyAllowed := scan.keyAllowed || !scan.inFlow }
      else scan.moveTo cursor

/-- A place for a key that is no longer one: a key ends in its line, and within 1024 characters. -/
def KeyPlace.isStale (place : KeyPlace) (cursor : Cursor) : Bool :=
  place.line < cursor.line || place.index + 1024 < cursor.index

/-- Forgets a place for a key, which must not be a required one. -/
def forget (place : Option KeyPlace) : Option (Option KeyPlace) :=
  if place.any (·.required) then none else some none

def Scan.dropStale (scan : Scan) : Option Scan := do
  let fresh (place : Option KeyPlace) : Option (Option KeyPlace) :=
    if place.any (·.isStale scan.cursor) then forget place else some place
  let key ← fresh scan.key
  let outerKeys ← scan.outerKeys.mapM fresh
  some { scan with key, outerKeys }

/-- Closes the blocks that lie deeper than a column. -/
def Scan.closeBlocks (column : Int) : Nat → Scan → Scan
  | 0, scan => scan
  | fuel + 1, scan =>
      if column < scan.indent then
        closeBlocks column fuel
          { scan.push .blockEnd with indent := scan.outer.headD (-1), outer := scan.outer.tail }
      else scan

/-- Closes the blocks that lie deeper than a column, outside brackets. -/
def Scan.unroll (scan : Scan) (column : Int) : Scan :=
  if scan.inFlow then scan else closeBlocks column (scan.outer.length + 1) scan

/-- Opens a block at a column that lies deeper than the current one, outside brackets: in front of
the token with a number. -/
def Scan.roll (scan : Scan) (column : Nat) (position : Nat) (token : Token) : Scan :=
  if !scan.inFlow ∧ scan.indent < column then
    { scan.insert position token with indent := column, outer := scan.indent :: scan.outer }
  else scan

def Scan.forgetKey (scan : Scan) : Option Scan := do
  let key ← forget scan.key
  some { scan with key }

def Scan.saveKey (scan : Scan) : Option Scan :=
  if scan.keyAllowed then do
    let scan ← scan.forgetKey
    let c := scan.cursor
    let required := !scan.inFlow && scan.indent = c.column
    some { scan with key := some ⟨scan.tokens.size, required, c.index, c.line, c.column⟩ }
  else some scan

/-- Says whether a key may begin with the next token. -/
def Scan.allowKey (scan : Scan) (allowed : Bool) : Scan :=
  { scan with keyAllowed := allowed }

/-- A token of some characters. -/
def Scan.mark (scan : Scan) (count : Nat) (token : Token) : Scan :=
  (scan.push token).moveTo (scan.cursor.skip count)

def percentOctets : Nat → List Char → List UInt8 × List Char
  | 0, text => ([], text)
  | fuel + 1, text =>
      match text with
      | '%' :: a :: b :: rest =>
          match hexDigit? a, hexDigit? b with
          | some high, some low =>
              let (octets, rest) := percentOctets fuel rest
              (UInt8.ofNat (high * 16 + low) :: octets, rest)
          | _, _ => ([], text)
      | _ => ([], text)

def isTagChar (wide : Bool) (c : Char) : Bool :=
  isNameChar c || ";/?:@&=+$.!~*'()%".contains c || (wide && (c = ',' || c = '[' || c = ']'))

/-- The text of a tag with percent-encoded characters read. -/
def readTagText : Nat → List Char → Option (List Char)
  | 0, _ => none
  | fuel + 1, text =>
      match text with
      | [] => some []
      | '%' :: _ => do
          let (octets, rest) := percentOctets text.length text
          let decoded ← Text.ofUtf8? octets
          if octets.isEmpty then none else some (decoded.toList ++ (← readTagText fuel rest))
      | c :: rest => (readTagText fuel rest).map (c :: ·)

/-- The rest of a tag. -/
def takeTagText (wide : Bool) (cursor : Cursor) : Option (List Char × Cursor) := do
  let (raw, cursor) := cursor.takeWhile (isTagChar wide)
  let text ← readTagText (raw.length + 1) raw
  some (text, cursor)

/-- A handle: an exclamation mark, or a name between two of them. The flag says whether the second
one was there. -/
def takeHandle (cursor : Cursor) : Option (List Char × Bool × Cursor) :=
  if cursor.head? = some '!' then
    let (name, cursor) := (cursor.skip 1).takeWhile isNameChar
    if cursor.head? = some '!' then some ('!' :: name ++ ['!'], true, cursor.skip 1)
    else some ('!' :: name, false, cursor)
  else none

def takeTag (flow : Bool) (cursor : Cursor) : Option (Token × Cursor) := do
  let (handle, rest, cursor) ← take cursor
  if cursor.isGapAt 0 ∨ (flow ∧ cursor.head? = some ',') then
    some (.tag (String.ofList handle) (String.ofList rest), cursor)
  else none
where
  take (cursor : Cursor) : Option (List Char × List Char × Cursor) := do
    if cursor.rest[1]? = some '<' then
      let (rest, cursor) ← takeTagText true (cursor.skip 2)
      if cursor.head? = some '>' ∧ !rest.isEmpty then some ([], rest, cursor.skip 1) else none
    else
      let (handle, closed, next) ← takeHandle cursor
      if closed then
        let (rest, cursor) ← takeTagText false next
        if rest.isEmpty then none else some (handle, rest, cursor)
      else
        let (more, cursor) ← takeTagText false next
        let rest := handle.drop 1 ++ more
        if rest.isEmpty then some ([], ['!'], cursor) else some (['!'], rest, cursor)

/-- The number of a version, of at most nine digits. -/
def takeVersionNumber (cursor : Cursor) : Option (Nat × Cursor) :=
  let (digits, cursor) := cursor.takeWhile Char.isDigit
  if digits.isEmpty ∨ 9 < digits.length then none else some (Text.digitsValue digits, cursor)

/-- A directive: the version of the format, or a short form for the beginnings of tags. -/
def takeDirective (cursor : Cursor) : Option (Token × Cursor) := do
  let (name, cursor) := (cursor.skip 1).takeWhile isNameChar
  if !cursor.isGapAt 0 then none
  else
    let (token, cursor) ← take (String.ofList name) (cursor.skipWhile isBlank)
    some (token, ← cursor.finishLine?)
where
  take (name : String) (cursor : Cursor) : Option (Token × Cursor) := do
    if name = "YAML" then
      let (major, cursor) ← takeVersionNumber cursor
      if cursor.head? = some '.' then
        let (minor, cursor) ← takeVersionNumber (cursor.skip 1)
        some (.version major minor, cursor)
      else none
    else if name = "TAG" then
      let (handle, closed, cursor) ← takeHandle cursor
      if (closed ∨ handle = ['!']) ∧ cursor.at isBlank then
        let (lead, cursor) ← takeTagText true (cursor.skipWhile isBlank)
        if !lead.isEmpty ∧ cursor.isGapAt 0 then
          some (.tagLead (String.ofList handle) (String.ofList lead), cursor)
        else none
      else none
    else none

def takeName (cursor : Cursor) : Option (String × Cursor) :=
  let (name, cursor) := (cursor.skip 1).takeWhile isNameChar
  if !name.isEmpty ∧ (cursor.isGapAt 0 ∨ cursor.at fun c => "?:,]\x7d%@`".contains c) then
    some (String.ofList name, cursor)
  else none

/-- A token that a key may begin with, and behind which none may begin. -/
def Scan.takeKeyStart (scan : Scan) (take : Cursor → Option (Token × Cursor)) : Option Scan := do
  let scan ← scan.saveKey
  let (token, cursor) ← take scan.cursor
  some (((scan.push token).moveTo cursor).allowKey false)

/-- A colon: it makes a key of what began at the saved place, or follows a key that was marked. -/
def Scan.takeValue (scan : Scan) : Option Scan :=
  match scan.key with
  | some place =>
      let scan := scan.insert place.position .key
      let scan := scan.roll place.column place.position .blockMapping
      some (({ scan with key := none }.mark 1 .value).allowKey false)
  | none =>
      if scan.inFlow then some ((scan.mark 1 .value).allowKey false)
      else if scan.keyAllowed then
        let scan := scan.roll scan.cursor.column scan.tokens.size .blockMapping
        some ((scan.mark 1 .value).allowKey true)
      else none

/-- A plain scalar. -/
def Scan.takePlainToken (scan : Scan) : Option Scan := do
  let scan ← scan.saveKey
  let (text, broken, cursor) ← takePlain scan.inFlow scan.indent scan.cursor
  some (((scan.push (.scalar .plain (String.ofList text))).moveTo cursor).allowKey broken)

/-- A character that no plain scalar begins with. -/
def isIndicator (c : Char) : Bool :=
  "-?:,[]\x7b\x7d#&*!|>'\"%@`".contains c

/-- The scan behind the next token, which begins with a given character. -/
def Scan.takeToken (scan : Scan) (c : Char) : Option Scan :=
  let cursor := scan.cursor
  let gapNext := cursor.isGapAt 1
  let separate (count : Nat) (token : Token) : Option Scan := do
    let scan ← (scan.unroll (-1)).forgetKey
    some ((scan.mark count token).allowKey false)
  let openFlow (token : Token) : Option Scan := do
    let scan ← scan.saveKey
    let scan := { scan with key := none, outerKeys := scan.key :: scan.outerKeys }
    some ((scan.mark 1 token).allowKey true)
  let closeFlow (token : Token) : Option Scan := do
    let scan ← scan.forgetKey
    let scan := { scan with key := scan.outerKeys.headD none, outerKeys := scan.outerKeys.tail }
    some ((scan.mark 1 token).allowKey false)
  let openBlock (opening token : Token) (allowed : Bool) : Option Scan := do
    if !scan.inFlow ∧ !scan.keyAllowed then none
    else
      let scan ← (scan.roll cursor.column scan.tokens.size opening).forgetKey
      some ((scan.mark 1 token).allowKey allowed)
  let block (folded : Bool) : Option Scan := do
    let scan ← scan.forgetKey
    let (text, cursor) ← takeBlock folded scan.indent cursor
    let style := if folded then Style.folded else Style.literal
    some (((scan.push (.scalar style (String.ofList text))).moveTo cursor).allowKey true)
  let quoted (single : Bool) : Option Scan :=
    scan.takeKeyStart fun cursor => (takeQuoted single cursor).map fun (text, cursor) =>
      (.scalar .quoted (String.ofList text), cursor)
  if cursor.column = 0 ∧ c = '%' then do
    let scan ← (scan.unroll (-1)).forgetKey
    let (token, cursor) ← takeDirective scan.cursor
    some (((scan.push token).moveTo cursor).allowKey false)
  else if cursor.isDocumentMark '-' then separate 3 .documentStart
  else if cursor.isDocumentMark '.' then separate 3 .documentEnd
  else if c = '[' then openFlow .flowSequence
  else if c = '\x7b' then openFlow .flowMapping
  else if c = ']' then closeFlow .flowSequenceEnd
  else if c = '\x7d' then closeFlow .flowMappingEnd
  else if c = ',' then do
    let scan ← scan.forgetKey
    some ((scan.mark 1 .flowEntry).allowKey true)
  else if c = '-' ∧ gapNext then openBlock .blockSequence .blockEntry true
  else if c = '?' ∧ (scan.inFlow ∨ gapNext) then openBlock .blockMapping .key (!scan.inFlow)
  else if c = ':' ∧ (scan.inFlow ∨ gapNext) then scan.takeValue
  else if c = '*' then
    scan.takeKeyStart fun cursor => (takeName cursor).map fun (name, next) => (.alias name, next)
  else if c = '&' then
    scan.takeKeyStart fun cursor => (takeName cursor).map fun (name, next) => (.anchor name, next)
  else if c = '!' then scan.takeKeyStart (takeTag scan.inFlow)
  else if c = '|' ∧ !scan.inFlow then block false
  else if c = '>' ∧ !scan.inFlow then block true
  else if c = '\'' then quoted true
  else if c = '"' then quoted false
  else if (!isIndicator c ∧ !cursor.isGapAt 0) ∨ (c = '-' ∧ !(cursor.rest[1]?.any isBlank)) ∨
      (!scan.inFlow ∧ (c = '?' ∨ c = ':') ∧ !gapNext) then scan.takePlainToken
  else none

/-- The tokens up to the end of the text. The end closes every block; a key that is still required
is missing. -/
def Scan.run : Nat → Scan → Option (List Token)
  | 0, _ => none
  | fuel + 1, scan => do
      let scan ← (scan.toNextToken (scan.cursor.rest.length + 1)).dropStale
      let scan := scan.unroll scan.cursor.column
      match scan.cursor.rest with
      | [] =>
          let scan ← (scan.unroll (-1)).forgetKey
          some scan.tokens.toList
      | c :: _ => run fuel (← scan.takeToken c)

/-- The tokens of a text, if it has any reading as tokens. -/
def tokens? (text : List Char) : Option (List Token) :=
  let text := match text with
    | '\uFEFF' :: rest => rest
    | text => text
  if text.all isAllowed then Scan.run (text.length + 1) (Scan.start text) else none

end Muster.Yaml
