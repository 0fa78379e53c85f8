/-!
UTF-8 octets and the characters they stand for. Reading never fails: an octet sequence becomes a
list in which every maximal broken part is a gap (`none`). A strict reader accepts only texts
without gaps, a lenient one shows the replacement character in each.
-/
namespace Muster.Text

/-- A run of characters in which `none` marks octets that are no character. -/
abbrev Glyphs := List (Option Char)

/-- An octet that can only continue a character. -/
def isContinuation (b : UInt8) : Bool :=
  0x80 ≤ b && b ≤ 0xBF

/-- The range that the second octet of a character must lie in, by its first one. -/
def secondRange (first : UInt8) : UInt8 × UInt8 :=
  if first = 0xE0 then (0xA0, 0xBF)
  else if first = 0xED then (0x80, 0x9F)
  else if first = 0xF0 then (0x90, 0xBF)
  else if first = 0xF4 then (0x80, 0x8F)
  else (0x80, 0xBF)

/-- How many octets a character has that starts with this one; zero for none. -/
def sequenceLength (first : UInt8) : Nat :=
  if first < 0x80 then 1
  else if first < 0xC2 then 0
  else if first < 0xE0 then 2
  else if first < 0xF0 then 3
  else if first < 0xF5 then 4
  else 0

/-- The payload bits of a continuation octet put behind those read so far. -/
def pushSextet (value : Nat) (b : UInt8) : Nat :=
  value * 64 + (b.toNat - 0x80)

/-- One character or gap at the head of the octets, with the octets behind it. A broken sequence
ends before the first octet that could not belong to it. -/
def nextGlyph (first : UInt8) (rest : List UInt8) : Option Char × List UInt8 :=
  let (low, high) := secondRange first
  match sequenceLength first, rest with
  | 1, _ => (some (Char.ofNat first.toNat), rest)
  | 2, b :: tail =>
      if low ≤ b && b ≤ high then
        (some (Char.ofNat (pushSextet (first.toNat - 0xC0) b)), tail)
      else (none, rest)
  | 3, b :: tail =>
      if low ≤ b && b ≤ high then
        match tail with
        | c :: tail' =>
            if isContinuation c then
              (some (Char.ofNat (pushSextet (pushSextet (first.toNat - 0xE0) b) c)), tail')
            else (none, tail)
        | [] => (none, [])
      else (none, rest)
  | 4, b :: tail =>
      if low ≤ b && b ≤ high then
        match tail with
        | c :: tail' =>
            if isContinuation c then
              match tail' with
              | d :: tail'' =>
                  if isContinuation d then
                    let value := pushSextet (pushSextet (pushSextet (first.toNat - 0xF0) b) c) d
                    (some (Char.ofNat value), tail'')
                  else (none, tail')
              | [] => (none, [])
            else (none, tail)
        | [] => (none, [])
      else (none, rest)
  | _, _ => (none, rest)

theorem nextGlyph_length_le (first : UInt8) (rest : List UInt8) :
    (nextGlyph first rest).2.length ≤ rest.length := by
  unfold nextGlyph
  repeat' split
  all_goals simp_all
  all_goals omega

/-- The characters and gaps of an octet sequence. -/
def glyphs : List UInt8 → Glyphs
  | [] => []
  | first :: rest =>
      (nextGlyph first rest).1 :: glyphs (nextGlyph first rest).2
  termination_by bytes => bytes.length
  decreasing_by
    have := nextGlyph_length_le first rest
    simp only [List.length_cons]
    omega

def ofUtf8? (bytes : List UInt8) : Option String :=
  (glyphs bytes).mapM id |>.map String.ofList

/-- The text that the octets spell, with U+FFFD in place of every gap. -/
def ofUtf8Lossy (bytes : List UInt8) : String :=
  String.ofList ((glyphs bytes).map (·.getD '\uFFFD'))

def toUtf8 (s : String) : List UInt8 :=
  s.toUTF8.toList

end Muster.Text
