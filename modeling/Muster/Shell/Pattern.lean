/-!
Patterns: an asterisk stands for any octets, a question mark for one octet, and a list between square
brackets for one octet of the list. Quoted octets stand for themselves.
-/
namespace Muster.Shell

/-- A piece of a pattern. -/
inductive Glob
  | exactly (c : Char)
  | anyOne
  | anyRun
  | oneOf (negated : Bool) (ranges : List (Char × Char))
deriving Repr, DecidableEq

/-- An octet of a pattern, and whether it is quoted. -/
abbrev PatternOctet := Char × Bool

/-- The ranges of a list between brackets, and what is behind its closing bracket. A bracket in the
first place belongs to the list. -/
def takeRanges : Nat → Bool → List PatternOctet → Option (List (Char × Char) × List PatternOctet)
  | 0, _, _ => none
  | fuel + 1, isFirst, octets =>
      match octets with
      | [] => none
      | (low, quoted) :: rest =>
          if low = ']' ∧ !quoted ∧ !isFirst then some ([], rest)
          else
            match rest with
            | ('-', false) :: (high, sure) :: rest' =>
                if high = ']' ∧ !sure then
                  (takeRanges fuel false rest).map fun (ranges, rest) => ((low, low) :: ranges, rest)
                else
                  (takeRanges fuel false rest').map fun (ranges, rest) =>
                    ((low, high) :: ranges, rest)
            | _ => (takeRanges fuel false rest).map fun (ranges, rest) => ((low, low) :: ranges, rest)

/-- The pattern that some octets make up. A bracket that is not closed stands for itself. -/
def patternOf : Nat → List PatternOctet → List Glob
  | 0, _ => []
  | _, [] => []
  | fuel + 1, (c, quoted) :: rest =>
      if quoted then .exactly c :: patternOf fuel rest
      else if c = '*' then .anyRun :: patternOf fuel rest
      else if c = '?' then .anyOne :: patternOf fuel rest
      else if c = '[' then
        let (negated, inner) := match rest with
          | ('!', false) :: inner => (true, inner)
          | inner => (false, inner)
        match takeRanges (inner.length + 1) true inner with
        | some (ranges, rest) => .oneOf negated ranges :: patternOf fuel rest
        | none => .exactly c :: patternOf fuel rest
      else .exactly c :: patternOf fuel rest

def Glob.ofOctets (octets : List PatternOctet) : List Glob :=
  patternOf octets.length octets

/-- Does any end of a text pass a test? -/
def anyEnd (test : List Char → Bool) : List Char → Bool
  | [] => test []
  | c :: rest => test (c :: rest) || anyEnd test rest

/-- Does a piece stand for an octet? -/
def Glob.covers (c : Char) : Glob → Bool
  | .exactly d => c = d
  | .anyOne | .anyRun => true
  | .oneOf negated ranges => ranges.any (fun (low, high) => low ≤ c && c ≤ high) != negated

/-- Does a pattern stand for a whole text? -/
def fits : List Glob → List Char → Bool
  | [], text => text.isEmpty
  | .anyRun :: rest, text => anyEnd (fits rest) text
  | piece :: rest, text =>
      match text with
      | c :: text => piece.covers c && fits rest text
      | [] => false

/-- The text without a part at its beginning that a pattern stands for: the shortest such part, or
the longest. -/
def dropFitting (longest : Bool) (pattern : List Glob) (text : List Char) : List Char :=
  let lengths := List.range (text.length + 1)
  let lengths := if longest then lengths.reverse else lengths
  match lengths.find? fun length => fits pattern (text.take length) with
  | some length => text.drop length
  | none => text

/-- The same at the end of the text. -/
def dropFittingEnd (longest : Bool) (pattern : List Glob) (text : List Char) : List Char :=
  let lengths := List.range (text.length + 1)
  let lengths := if longest then lengths else lengths.reverse
  match lengths.find? fun length => fits pattern (text.drop length) with
  | some length => text.take length
  | none => text

end Muster.Shell
