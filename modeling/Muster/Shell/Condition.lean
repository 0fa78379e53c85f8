import Muster.Shell.Arithmetic
/-!
Conditions: the expressions of the builtin that compares texts and numbers and looks at files. A word
that could be an operator is one only where it has its operands.
-/
namespace Muster.Shell

/-- What conditions ask about a file. -/
structure FileView where
  isThere : List Char → Bool
  isDirectory : List Char → Bool
  isRegular : List Char → Bool
  size : List Char → Nat

def unaryOperators : List (List Char) :=
  ["-z", "-n", "-e", "-f", "-d", "-r", "-w", "-x", "-s", "-t", "-b", "-c", "-p", "-u", "-g", "-k", "-h",
    "-L", "-S", "-O", "-G"].map String.toList

/-- The operators between two operands. -/
def comparisons : List (List Char) :=
  ["=", "!=", "<", ">", "-eq", "-ne", "-lt", "-le", "-gt", "-ge", "-nt", "-ot", "-ef"].map String.toList

/-- Is the first word an operator in front of the words behind it? -/
def isUnary (word : List Char) (rest : List (List Char)) : Bool :=
  unaryOperators.contains word &&
    match rest with
    | [] => false
    | [_] => true
    | next :: _ => !comparisons.contains next

def wordNumber (word : List Char) : Except String Int :=
  let digits := (dropBlank word).reverse.dropWhile (fun c => isGap c || c = '\n') |>.reverse
  let (negative, digits) := match digits with
    | '-' :: digits => (true, digits)
    | '+' :: digits => (false, digits)
    | digits => (false, digits)
  match digitsIn? 10 digits with
  | some n => .ok (if negative then -(n : Int) else n)
  | none => .error ("Illegal number: " ++ String.ofList word)

/-- Does a word have what an operator asks for? -/
def holdsFor (files : FileView) (operator word : List Char) : Bool :=
  match String.ofList operator with
  | "-z" => word.isEmpty
  | "-n" => !word.isEmpty
  | "-e" | "-r" | "-w" => files.isThere word
  | "-x" | "-d" => files.isDirectory word
  | "-f" => files.isRegular word
  | "-s" => files.isThere word && files.size word ≠ 0
  | _ => false

def compare (operator left right : List Char) : Except String Bool := do
  let numbers (holds : Int → Int → Bool) : Except String Bool := do
    return holds (← wordNumber left) (← wordNumber right)
  match String.ofList operator with
  | "=" => return left = right
  | "!=" => return left ≠ right
  | "<" => return left < right
  | ">" => return right < left
  | "-eq" => numbers fun a b => a = b
  | "-ne" => numbers fun a b => a ≠ b
  | "-lt" => numbers fun a b => a < b
  | "-le" => numbers fun a b => a ≤ b
  | "-gt" => numbers fun a b => b < a
  | "-ge" => numbers fun a b => b ≤ a
  | _ => return false

mutual

/-- Conditions of which one has to hold, and the words behind them. -/
def anyHolds (files : FileView) : Nat → List (List Char) → Except String (Bool × List (List Char))
  | 0, words => return (false, words)
  | fuel + 1, words => do
      let (first, rest) ← allHold files fuel words
      match rest with
      | ['-', 'o'] :: rest =>
          let (second, rest) ← anyHolds files fuel rest
          return (first || second, rest)
      | _ => return (first, rest)

def allHold (files : FileView) : Nat → List (List Char) → Except String (Bool × List (List Char))
  | 0, words => return (false, words)
  | fuel + 1, words => do
      let (first, rest) ← oneHolds files fuel words
      match rest with
      | ['-', 'a'] :: rest =>
          let (second, rest) ← allHold files fuel rest
          return (first && second, rest)
      | _ => return (first, rest)

/-- A single condition. A word alone holds if it is not empty. -/
def oneHolds (files : FileView) : Nat → List (List Char) → Except String (Bool × List (List Char))
  | 0, words => return (false, words)
  | fuel + 1, words => do
      match words with
      | [] => return (false, [])
      | word :: rest =>
          if word = ['!'] ∧ !rest.head?.any comparisons.contains then
            let (holds, rest) ← oneHolds files fuel rest
            return (!holds, rest)
          else if word = ['('] ∧ !rest.isEmpty ∧ !rest.head?.any comparisons.contains then
            let (holds, rest) ← anyHolds files fuel rest
            match rest with
            | [')'] :: rest => return (holds, rest)
            | _ => throw "closing paren expected"
          else if isUnary word rest then
            return (holdsFor files word (rest.headD []), rest.drop 1)
          else
            match rest with
            | operator :: behind =>
                if comparisons.contains operator then
                  match behind with
                  | [] => throw (String.ofList operator ++ ": argument expected")
                  | right :: behind => return (← compare operator word right, behind)
                else return (!word.isEmpty, rest)
            | [] => return (!word.isEmpty, [])

end

/-- Does a whole condition hold? If there is more than a condition, the word where it ends is to
blame. -/
def condition (files : FileView) (words : List (List Char)) : Except String Bool := do
  if words.isEmpty then return false
  let (holds, rest) ← anyHolds files (4 * words.length + 4) words
  match rest with
  | [] => return holds
  | _ :: _ =>
      let last := words.getD (words.length - rest.length - 1) []
      throw (String.ofList last ++ ": unexpected operator")

end Muster.Shell
