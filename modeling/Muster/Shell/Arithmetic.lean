import Muster.Shell.Reader
import Muster.Text.Decimal
import Muster.Text.Hexadecimal
/-!
Arithmetic in scripts: whole numbers of 64 bits that wrap around, and the operators of old in their
usual ranks. A name stands for the number in its variable, and zero for one without a value.
-/
namespace Muster.Shell

/-- Why an expression has no value. -/
inductive ArithmeticFault
  | noPrimary
  | noEnd
  | noClosing
  | noColon
  | zeroDivision
  | illegalNumber (text : List Char)
deriving Repr, DecidableEq

/-- The variables that an expression reads and sets. -/
abbrev Variables := List (List Char × List Char)

/-- The evaluation of an expression: the text that is left, and the variables. -/
abbrev Evaluation (α : Type) := StateT (List Char × Variables) (Except ArithmeticFault) α

def dropBlank (text : List Char) : List Char :=
  text.dropWhile fun c => isGap c || c = '\n'

def digitsIn? (base : Nat) (digits : List Char) : Option Nat :=
  if digits.isEmpty then none
  else digits.foldlM
    (fun n c => ((Text.hexDigit? c).filter (· < base)).map fun digit => n * base + digit) 0

/-- The number that a text writes: in decimal, in octal behind a zero, or in hexadecimal. -/
def numberOf? (text : List Char) : Option Int64 :=
  let (negative, digits) := match text with
    | '-' :: rest => (true, rest)
    | '+' :: rest => (false, rest)
    | _ => (false, text)
  let size := match digits with
    | '0' :: 'x' :: rest | '0' :: 'X' :: rest => digitsIn? 16 rest
    | '0' :: rest => if rest.isEmpty then some 0 else digitsIn? 8 rest
    | _ => digitsIn? 10 digits
  size.map fun n => Int64.ofInt (if negative then -(n : Int) else n)

def numberText (n : Int64) : List Char :=
  (Text.ofInt n.toInt).toList

def variableNumber (name : List Char) : Evaluation Int64 := do
  match (← get).2.lookup name with
  | none => return 0
  | some text =>
      let text := dropBlank text
      if text.isEmpty then return 0
      else match numberOf? text with
        | some n => return n
        | none => throw (.illegalNumber text)

/-- The operators of two operands, longest first, with their ranks. -/
def binaryOperators : List (List Char × Nat) :=
  [("||", 1), ("&&", 2), ("==", 6), ("!=", 6), ("<=", 7), (">=", 7), ("<<", 8), (">>", 8), ("|", 3),
    ("^", 4), ("&", 5), ("<", 7), (">", 7), ("+", 9), ("-", 9), ("*", 10), ("/", 10), ("%", 10)].map
    fun (op, rank) => (op.toList, rank)

/-- The operators that may stand in front of the equals sign of an assignment. -/
def assignOperators : List (List Char) :=
  ["<<", ">>", "+", "-", "*", "/", "%", "&", "^", "|", ""].map String.toList

def beginsWith (piece text : List Char) : Bool :=
  text.take piece.length = piece

/-- The operator of two operands here. An assignment is none. -/
def operatorHere? (text : List Char) : Option (List Char × Nat) :=
  (binaryOperators.find? fun (op, _) => beginsWith op text).filter fun (op, rank) =>
    rank ≤ 2 || rank = 6 || rank = 7 || (text.drop op.length).head? ≠ some '='

def truth (b : Bool) : Int64 :=
  if b then 1 else 0

/-- The value of an operator on two numbers. Where the value does not count a division by zero is no
fault. -/
def operate (live : Bool) (op : List Char) (a b : Int64) : Except ArithmeticFault Int64 :=
  match String.ofList op with
  | "||" => .ok (truth (a ≠ 0 || b ≠ 0))
  | "&&" => .ok (truth (a ≠ 0 && b ≠ 0))
  | "==" => .ok (truth (a = b))
  | "!=" => .ok (truth (a ≠ b))
  | "<=" => .ok (truth (a ≤ b))
  | ">=" => .ok (truth (b ≤ a))
  | "<" => .ok (truth (a < b))
  | ">" => .ok (truth (b < a))
  | "<<" => .ok (a <<< b)
  | ">>" => .ok (a >>> b)
  | "|" => .ok (a ||| b)
  | "^" => .ok (a ^^^ b)
  | "&" => .ok (a &&& b)
  | "+" => .ok (a + b)
  | "-" => .ok (a - b)
  | "*" => .ok (a * b)
  | "/" => if b = 0 then (if live then .error .zeroDivision else .ok 0) else .ok (a / b)
  | "%" => if b = 0 then (if live then .error .zeroDivision else .ok 0) else .ok (a % b)
  | _ => .ok b

/-- Skips blanks and goes on at what stands there. -/
def nextText : Evaluation (List Char) := do
  modify fun (text, bindings) => (dropBlank text, bindings)
  return (← get).1

def skipOctets (count : Nat) : Evaluation Unit :=
  modify fun (text, bindings) => (text.drop count, bindings)

def takeIf (c : Char) : Evaluation Bool := do
  if (← nextText).head? = some c then
    skipOctets 1
    return true
  else return false

mutual

/-- An assignment, or a choice between two values. -/
def evaluateAssignment : Nat → Bool → Evaluation Int64
  | 0, _ => throw .noPrimary
  | fuel + 1, live => do
      let text ← nextText
      let name := text.takeWhile isNamePart
      let behind := dropBlank (text.drop name.length)
      let operator? := assignOperators.find? fun op =>
        beginsWith (op ++ ['=']) behind && !beginsWith "==".toList (behind.drop op.length)
      match isName name, operator? with
      | true, some op =>
          skipOctets (text.length - behind.length + op.length + 1)
          let value ← evaluateAssignment fuel live
          let value ← if op.isEmpty then pure value
            else monadLift (operate live op (← variableNumber name) value)
          if live then modify fun (text, bindings) =>
            (text, (name, numberText value) :: bindings.filter (·.1 ≠ name))
          return value
      | _, _ => evaluateChoice fuel live

/-- A choice between two values, or a single one. -/
def evaluateChoice : Nat → Bool → Evaluation Int64
  | 0, _ => throw .noPrimary
  | fuel + 1, live => do
      let test ← evaluateBinary fuel live 1
      if ← takeIf '?' then
        let first ← evaluateAssignment fuel (live && test ≠ 0)
        if !(← takeIf ':') then throw .noColon
        let second ← evaluateChoice fuel (live && test = 0)
        return if test ≠ 0 then first else second
      else return test

/-- Operators of at least a rank. -/
def evaluateBinary : Nat → Bool → Nat → Evaluation Int64
  | 0, _, _ => throw .noPrimary
  | fuel + 1, live, rank => do
      evaluateMore fuel live rank (← evaluateUnary fuel live)

/-- The operators of at least a rank behind a first operand. -/
def evaluateMore : Nat → Bool → Nat → Int64 → Evaluation Int64
  | 0, _, _, _ => throw .noPrimary
  | fuel + 1, live, rank, first => do
      match operatorHere? (← nextText) with
      | some (op, here) =>
          if here < rank then return first
          else
            skipOctets op.length
            let decided := (here = 1 && first ≠ 0) || (here = 2 && first = 0)
            let second ← evaluateBinary fuel (live && !decided) (here + 1)
            evaluateMore fuel live rank (← operate live op first second)
      | none => return first

/-- An operand with the signs in front of it. -/
def evaluateUnary : Nat → Bool → Evaluation Int64
  | 0, _ => throw .noPrimary
  | fuel + 1, live => do
      let text ← nextText
      match text with
      | '+' :: _ =>
          skipOctets 1
          evaluateUnary fuel live
      | '-' :: _ =>
          skipOctets 1
          return -(← evaluateUnary fuel live)
      | '!' :: _ =>
          skipOctets 1
          return truth ((← evaluateUnary fuel live) = 0)
      | '~' :: _ =>
          skipOctets 1
          return ~~~(← evaluateUnary fuel live)
      | '(' :: _ =>
          skipOctets 1
          let value ← evaluateAssignment fuel live
          if ← takeIf ')' then return value else throw .noClosing
      | c :: _ =>
          let word := text.takeWhile isNamePart
          skipOctets word.length
          if isNameStart c then variableNumber word
          else match numberOf? word with
            | some n => return n
            | none => throw .noPrimary
      | [] => throw .noPrimary

end

/-- The value of an expression, and the variables behind it. Nothing at all is zero. -/
def evaluate (expression : List Char) (bindings : Variables) :
    Except ArithmeticFault (Int64 × Variables) := do
  if (dropBlank expression).isEmpty then return (0, bindings)
  let fuel := 8 * expression.length + 8
  let (value, rest, bindings) ← (evaluateAssignment fuel true).run (expression, bindings)
  if (dropBlank rest).isEmpty then return (value, bindings) else throw .noEnd

end Muster.Shell
