import Muster.Shell.Format
/-!
Utilities: programs that a script calls and that only turn an input and arguments into an output.
-/
namespace Muster.Shell

/-- What a utility is called with. Files that cannot be read have no octets. -/
structure Call where
  arguments : List (List Char)
  input : List Char
  file? : List Char → Option (List Char)

/-- What a utility does: its output, its complaints, its status, how long it takes in microseconds,
and whether it goes on until nobody reads any more. -/
structure Outcome where
  output : List Char := []
  errors : List Char := []
  status : Nat := 0
  micros : Nat := 0
  endless : Bool := false

/-- A utility that only complains. -/
def Outcome.refused (message : List Char) (status : Nat := 1) : Outcome :=
  { errors := message ++ ['\n'], status }

def decimal? (text : List Char) : Option Nat :=
  digitsIn? 10 text

/-- The files that some names stand for, and complaints about those that are not there. A hyphen
stands for the input, and so does the lack of any name. -/
def Call.contents (call : Call) (utility : String) (names : List (List Char)) : Outcome :=
  let one (name : List Char) : Outcome :=
    if name = ['-'] then { output := call.input }
    else match call.file? name with
      | some octets => { output := octets }
      | none => .refused (utility.toList ++ ": ".toList ++ name ++
          ": No such file or directory".toList)
  (if names.isEmpty then [['-']] else names).foldl (fun outcome name =>
    let next := one name
    { output := outcome.output ++ next.output
      errors := outcome.errors ++ next.errors
      status := max outcome.status next.status }) {}

def linesOf (text : List Char) : List (List Char) :=
  let lines := text.foldr (fun c lines => match lines with
    | line :: rest => if c = '\n' then [] :: line :: rest else (c :: line) :: rest
    | [] => [[c]]) [[]]
  if lines.getLast? = some [] then lines.dropLast else lines

def joinLines (lines : List (List Char)) : List Char :=
  lines.flatMap fun line => line ++ ['\n']

/-- The unit behind a length of time, in microseconds. -/
def unitMicros? : List Char → Option Nat
  | [] | ['s'] => some 1000000
  | ['m'] => some 60000000
  | ['h'] => some 3600000000
  | ['d'] => some 86400000000
  | _ => none

def micros? (text : List Char) : Option Nat := do
  let whole := text.takeWhile Char.isDigit
  let behind := text.drop whole.length
  let (fraction, behind) := match behind with
    | '.' :: rest => (rest.takeWhile Char.isDigit, rest.drop (rest.takeWhile Char.isDigit).length)
    | _ => ([], behind)
  let unit ← unitMicros? behind
  if whole.isEmpty ∧ fraction.isEmpty then none
  else
    let digits := whole ++ fraction
    some ((← decimal? digits) * unit / Nat.pow 10 fraction.length)

def sleep (call : Call) : Outcome :=
  let hint := "\nTry 'sleep --help' for more information."
  match call.arguments with
  | [] => .refused ("sleep: missing operand" ++ hint).toList
  | ('-' :: c :: _) :: _ =>
      .refused ("sleep: invalid option -- '" ++ String.singleton c ++ "'" ++ hint).toList
  | arguments =>
      match arguments.find? fun argument => (micros? argument).isNone with
      | some argument =>
          .refused ("sleep: invalid time interval '".toList ++ argument ++ ("'" ++ hint).toList)
      | none => { micros := (arguments.filterMap micros?).foldl (· + ·) 0 }

/-- How many lines or octets are asked for, and the names behind the options. -/
def takeCount : List (List Char) → Option (Bool × Nat) × List (List Char)
  | ('-' :: 'n' :: c :: digits) :: rest => ((decimal? (c :: digits)).map (false, ·), rest)
  | ['-', 'n'] :: digits :: rest => ((decimal? digits).map (false, ·), rest)
  | ('-' :: 'c' :: c :: digits) :: rest => ((decimal? (c :: digits)).map (true, ·), rest)
  | ['-', 'c'] :: digits :: rest => ((decimal? digits).map (true, ·), rest)
  | ('-' :: c :: digits) :: rest => ((decimal? (c :: digits)).map (false, ·), rest)
  | names => (some (false, 10), names)

/-- The beginning or the end of a text. -/
def edge (utility : String) (cut : {α : Type} → Nat → List α → List α) (call : Call) : Outcome :=
  match takeCount call.arguments with
  | (none, _) => .refused (utility ++ ": invalid number").toList
  | (some (octets, count), names) =>
      let outcome := call.contents utility names
      if octets then { outcome with output := cut count outcome.output }
      else
        let ended := outcome.output.getLast?.all (· = '\n')
        let kept := joinLines (cut count (linesOf outcome.output))
        let whole := kept.length = outcome.output.length + 1
        { outcome with output := if !ended ∧ whole then kept.dropLast else kept }

def takeLast {α : Type} (count : Nat) (items : List α) : List α :=
  items.drop (items.length - count)

def wordCount (text : List Char) : Nat :=
  (text.foldl (fun (count, inside) c =>
    let blank := isGap c || c = '\n' || c = '\r'
    (if !blank && !inside then count + 1 else count, !blank)) (0, false)).1

def count (call : Call) : Outcome :=
  let options := call.arguments.filter fun a => a.head? = some '-' && 1 < a.length
  let names := call.arguments.filter fun a => !options.contains a
  let outcome := call.contents "wc" names
  let text := outcome.output
  let wanted (c : Char) : Bool := options.isEmpty || options.any (·.contains c)
  let counts := (if wanted 'l' then [text.count '\n'] else []) ++
    (if wanted 'w' then [wordCount text] else []) ++ (if wanted 'c' then [text.length] else [])
  let width := if counts.length = 1 then 0 else 7
  let shown := counts.map fun n =>
    let digits := Text.natDigits n
    String.ofList (List.replicate (width - digits.length) ' ' ++ digits)
  { outcome with output := (" ".intercalate shown).toList ++ ['\n'] }

def sequence (call : Call) : Outcome :=
  match call.arguments.map numberOf? with
  | [some last] => run 1 1 last
  | [some first, some last] => run first 1 last
  | [some first, some step, some last] => run first step last
  | _ => .refused "seq: missing operand".toList
where
  run (first step last : Int64) : Outcome :=
    let (a, d, b) := (first.toInt, step.toInt, last.toInt)
    if d = 0 then .refused "seq: invalid Zero increment value: '0'".toList
    else
      let rounds := ((b - a) / d + 1).toNat
      { output := joinLines ((List.range rounds).map fun (i : Nat) => (Text.ofInt (a + d * i)).toList) }

/-- The octets of a set, in which ranges and escapes may stand. -/
def setOctets : Nat → List Char → List Char
  | 0, _ => []
  | fuel + 1, text =>
      match text with
      | '\\' :: c :: rest =>
          let (escaped, behind) := takeEscape (c :: rest)
          if escaped = '\\' then c :: setOctets fuel rest else escaped :: setOctets fuel behind
      | low :: '-' :: high :: rest =>
          (List.range (high.toNat + 1 - low.toNat)).map (fun i => Char.ofNat (low.toNat + i)) ++
            setOctets fuel rest
      | c :: rest => c :: setOctets fuel rest
      | [] => []

/-- The octets of a whole set. -/
def setOf (text : List Char) : List Char :=
  setOctets (text.length + 1) text

def translate (call : Call) : Outcome :=
  match call.arguments with
  | [['-', 'd'], away] =>
      let away := setOf away
      { output := call.input.filter fun c => !away.contains c }
  | [old, new] =>
      let new := setOf new
      let pairs := (setOf old).zipIdx.map fun (c, i) =>
        (c, new.getD i (new.getLast?.getD c))
      { output := call.input.map fun c => (pairs.lookup c).getD c }
  | _ => .refused "tr: missing operand".toList

def sortLines (call : Call) : Outcome :=
  let options := (call.arguments.filter fun a => a.head? = some '-' && 1 < a.length).flatten
  let names := call.arguments.filter fun a => a.head? ≠ some '-' || a.length = 1
  let outcome := call.contents "sort" names
  let numeric := options.contains 'n'
  let key (line : List Char) : Int :=
    (numberOf? (line.takeWhile fun c => c.isDigit || c = '-')).elim 0 Int64.toInt
  let before (a b : List Char) : Bool :=
    if numeric && key a ≠ key b then decide (key a < key b) else !decide (b < a)
  let lines := (linesOf outcome.output).mergeSort before
  let lines := if options.contains 'u' then lines.eraseDups else lines
  { outcome with output := joinLines (if options.contains 'r' then lines.reverse else lines) }

/-- Writes a line over and over, as far as anybody can be expected to read. -/
def repeatWord (call : Call) : Outcome :=
  let line := if call.arguments.isEmpty then ['y'] else (call.arguments.intersperse [' ']).flatten
  { output := (List.replicate 65536 (line ++ ['\n'])).flatten, endless := true }

def utility? (name : String) : Option (Call → Outcome) :=
  match name with
  | "cat" => some fun call => call.contents "cat" call.arguments
  | "sleep" => some sleep
  | "head" => some (edge "head" fun count items => items.take count)
  | "tail" => some (edge "tail" takeLast)
  | "wc" => some count
  | "seq" => some sequence
  | "tr" => some translate
  | "sort" => some sortLines
  | "yes" => some repeatWord
  | _ => none

/-- Does a utility look at its input? -/
def readsInput (name : String) : Bool :=
  name ≠ "sleep" && name ≠ "seq" && name ≠ "yes"

end Muster.Shell
