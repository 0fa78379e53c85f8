import Muster.Shell.Arithmetic
/-!
Output by format: escapes behind backslashes, and conversions behind percent signs. The format is gone
through again as long as there are arguments left.
-/
namespace Muster.Shell

/-- The value of the octal digits here, of at most so many, and the rest. -/
def takeOctal : Nat → Nat → List Char → Nat × List Char
  | 0, n, text => (n, text)
  | most + 1, n, text =>
      match text with
      | c :: rest =>
          if '0' ≤ c ∧ c ≤ '7' then takeOctal most (n * 8 + (c.toNat - '0'.toNat)) rest
          else (n, text)
      | [] => (n, [])

/-- The octet with a number, of which the last eight bits count. -/
def octet (n : Nat) : Char :=
  Char.ofNat (n % 256)

/-- The octet for what stands behind a backslash, and the rest. A backslash before anything else
stands for itself. -/
def takeEscape (text : List Char) : Char × List Char :=
  match text with
  | c :: rest =>
      match c with
      | '\\' => ('\\', rest)
      | 'a' => ('\x07', rest)
      | 'b' => ('\x08', rest)
      | 'e' => ('\x1b', rest)
      | 'f' => ('\x0c', rest)
      | 'n' => ('\n', rest)
      | 'r' => ('\r', rest)
      | 't' => ('\t', rest)
      | 'v' => ('\x0b', rest)
      | _ =>
          if '0' ≤ c ∧ c ≤ '7' then
            let (n, rest) := takeOctal 3 0 text
            (octet n, rest)
          else ('\\', text)
  | [] => ('\\', [])

/-- The octets of an argument with escapes, and whether it asks for an end of all output. -/
def unescape : Nat → List Char → List Char × Bool
  | 0, _ => ([], false)
  | fuel + 1, text =>
      match text with
      | [] => ([], false)
      | '\\' :: 'c' :: _ => ([], true)
      | '\\' :: '0' :: rest =>
          let (n, rest) := takeOctal 3 0 rest
          let (octets, ended) := unescape fuel rest
          (octet n :: octets, ended)
      | '\\' :: rest =>
          let (c, rest) := takeEscape rest
          let (octets, ended) := unescape fuel rest
          (c :: octets, ended)
      | c :: rest =>
          let (octets, ended) := unescape fuel rest
          (c :: octets, ended)

/-- The octets of an argument with escapes. -/
def unescaped (text : List Char) : List Char × Bool :=
  unescape (text.length + 1) text

/-- A conversion: its flags, the least width, the precision and the letter. -/
structure Conversion where
  flags : List Char
  width : Nat
  precision : Option Nat
  letter : Char
deriving Repr, DecidableEq

/-- Fills a piece up to the width of a conversion. -/
def Conversion.pad (conversion : Conversion) (sign digits : List Char) (numeric : Bool) :
    List Char :=
  let missing := conversion.width - (sign.length + digits.length)
  if conversion.flags.contains '-' then sign ++ digits ++ List.replicate missing ' '
  else if conversion.flags.contains '0' ∧ numeric ∧ conversion.precision.isNone then
    sign ++ List.replicate missing '0' ++ digits
  else List.replicate missing ' ' ++ sign ++ digits

/-- The digits of a number, filled with zeros up to the precision. -/
def Conversion.digits (conversion : Conversion) (base n : Nat) : List Char :=
  let digits := Nat.toDigits base n
  let digits := if conversion.precision = some 0 ∧ n = 0 then [] else digits
  List.replicate (conversion.precision.getD 0 - digits.length) '0' ++ digits

def Conversion.number (conversion : Conversion) (n : Int64) : List Char :=
  let unsigned := n.toUInt64.toNat
  let alternate := conversion.flags.contains '#' && n ≠ 0
  match conversion.letter with
  | 'u' => conversion.pad [] (conversion.digits 10 unsigned) true
  | 'o' =>
      let digits := conversion.digits 8 unsigned
      conversion.pad [] (if alternate then '0' :: digits else digits) true
  | 'x' =>
      conversion.pad (if alternate then ['0', 'x'] else []) (conversion.digits 16 unsigned) true
  | 'X' =>
      let digits := (conversion.digits 16 unsigned).map Char.toUpper
      conversion.pad (if alternate then ['0', 'X'] else []) digits true
  | _ =>
      let sign := if n < 0 then ['-'] else if conversion.flags.contains '+' then ['+']
        else if conversion.flags.contains ' ' then [' '] else []
      conversion.pad sign (conversion.digits 10 n.toInt.natAbs) true

/-- What a format has made so far, and what is left of the arguments. -/
structure Formatted where
  output : List Char := []
  arguments : List (List Char)
  used : Bool := false
  ended : Bool := false
  complaints : List (List Char) := []
  status : Nat := 0

/-- The same with a complaint, and the status that goes with it. -/
def Formatted.complain (formatted : Formatted) (complaint : List Char) (status : Nat) : Formatted :=
  { formatted with complaints := formatted.complaints ++ [complaint], status }

/-- The next argument, or nothing. -/
def Formatted.take (formatted : Formatted) : List Char × Formatted :=
  match formatted.arguments with
  | first :: rest => (first, { formatted with arguments := rest, used := true })
  | [] => ([], { formatted with used := true })

/-- The octets that a number at the head of a text is made of. -/
def numberHead (text : List Char) : List Char :=
  let (sign, digits) := match text with
    | '-' :: rest => (['-'], rest)
    | '+' :: rest => (['+'], rest)
    | _ => ([], text)
  match digits with
  | '0' :: x :: rest =>
      if x = 'x' ∨ x = 'X' then sign ++ '0' :: x :: rest.takeWhile fun c => (Text.hexDigit? c).isSome
      else sign ++ digits.takeWhile fun c => '0' ≤ c && c ≤ '7'
  | _ => sign ++ digits.takeWhile Char.isDigit

/-- The number that an argument gives, and what is wrong with it if anything is. Behind a quote the
number is that of the next octet. -/
def argumentNumber (argument : List Char) : Int64 × Option String :=
  match argument with
  | [] => (0, none)
  | '\'' :: c :: _ | '"' :: c :: _ => (Int64.ofNat c.toNat, none)
  | _ =>
      let text := dropBlank argument
      let head := numberHead text
      match numberOf? head with
      | none => (0, some ": expected numeric value")
      | some n => (n, if head.length = text.length then none else some ": not completely converted")

def Formatted.convert (formatted : Formatted) (conversion : Conversion) : Formatted :=
  let (argument, formatted) := formatted.take
  let add (octets : List Char) : Formatted :=
    { formatted with output := formatted.output ++ octets }
  let cut (octets : List Char) : List Char := match conversion.precision with
    | some most => octets.take most
    | none => octets
  match conversion.letter with
  | 's' => add (conversion.pad [] (cut argument) false)
  | 'c' => add (conversion.pad [] (argument.take 1) false)
  | 'b' =>
      let (octets, ended) := unescaped argument
      { add (conversion.pad [] (cut octets) false) with ended }
  | _ =>
      let (n, fault) := argumentNumber argument
      match fault with
      | none => add (conversion.number n)
      | some fault => (add (conversion.number n)).complain (argument ++ fault.toList) 1

/-- A width or precision: digits, or an argument in place of an asterisk. -/
def takeSize (formatted : Formatted) (text : List Char) : Option Nat × List Char × Formatted :=
  match text with
  | '*' :: rest =>
      let (argument, formatted) := formatted.take
      (some (argumentNumber argument).1.toInt.toNat, rest, formatted)
  | _ =>
      let digits := text.takeWhile Char.isDigit
      (if digits.isEmpty then none else digitsIn? 10 digits, text.drop digits.length, formatted)

def formatOnce : Nat → List Char → Formatted → Formatted
  | 0, _, formatted => formatted
  | fuel + 1, text, formatted =>
      let add (octets : List Char) : Formatted :=
        { formatted with output := formatted.output ++ octets }
      if formatted.ended then formatted
      else match text with
        | [] => formatted
        | '%' :: '%' :: rest => formatOnce fuel rest (add ['%'])
        | '%' :: rest =>
            let flags := rest.takeWhile fun c => "-+ #0".contains c
            let (width, rest, formatted) := takeSize formatted (rest.drop flags.length)
            let (precision, rest, formatted) := match rest with
              | '.' :: rest =>
                  let (size, rest, formatted) := takeSize formatted rest
                  (some (size.getD 0), rest, formatted)
              | _ => (none, rest, formatted)
            match rest with
            | letter :: rest =>
                if "scbdiuoxX".contains letter then
                  formatOnce fuel rest
                    (formatted.convert ⟨flags, width.getD 0, precision, letter⟩)
                else
                  let complaint := '%' :: letter :: ": invalid directive".toList
                  { formatted.complain complaint 2 with ended := true }
            | [] => { formatted.complain "missing format character".toList 2 with ended := true }
        | '\\' :: rest =>
            let (c, rest) := takeEscape rest
            formatOnce fuel rest (add [c])
        | c :: rest => formatOnce fuel rest (add [c])

def formatAll : Nat → List Char → Formatted → Formatted
  | 0, _, formatted => formatted
  | fuel + 1, format, formatted =>
      let formatted := formatOnce (format.length + 1) format { formatted with used := false }
      if formatted.ended || formatted.arguments.isEmpty || !formatted.used then formatted
      else formatAll fuel format formatted

def format (format : List Char) (arguments : List (List Char)) : Formatted :=
  formatAll (arguments.length + 1) format { arguments }

end Muster.Shell
