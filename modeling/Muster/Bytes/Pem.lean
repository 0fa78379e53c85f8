import Muster.Bytes.Base64
/-!
PEM texts: octets in Base64, in lines of 64 letters between a line that begins and a line that ends
a labelled part. A text may begin with other lines; behind the end line at most one line break
follows.
-/
namespace Muster.Bytes.Pem

/-- The octets of a PEM text and the label that they are marked with. -/
structure Part where
  label : String
  octets : List UInt8
deriving Repr, DecidableEq

/-- What opens the begin line and the end line. -/
def beginMark : List Char := "-----BEGIN ".toList
def endMark : List Char := "-----END ".toList
def dashes : List Char := "-----".toList

/-- The text behind a piece that it must start with. -/
def after? (piece : List Char) (text : List Char) : Option (List Char) :=
  if piece.isPrefixOf text then some (text.drop piece.length) else none

/-- The text before a piece that it must end with. -/
def before? (piece : List Char) (text : List Char) : Option (List Char) :=
  (after? piece.reverse text.reverse).map List.reverse

/-- The text from the first begin mark that opens it or follows a line feed. A NUL before it is
refused. -/
def dropPreamble? (text : List Char) : Option (List Char) :=
  if beginMark.isPrefixOf text then some text else go text
where
  go : List Char → Option (List Char)
    | [] => none
    | '\x00' :: _ => none
    | '\n' :: rest => if beginMark.isPrefixOf rest then some rest else go rest
    | _ :: rest => go rest

/-- The text behind a line break (LF, CR LF or CR) that it must start with. -/
def afterBreak? : List Char → Option (List Char)
  | '\r' :: '\n' :: rest => some rest
  | '\r' :: rest => some rest
  | '\n' :: rest => some rest
  | _ => none

/-- The text before a line break that it must end with. -/
def beforeBreak? (text : List Char) : Option (List Char) :=
  match text.reverse with
  | '\n' :: '\r' :: rest => some rest.reverse
  | '\n' :: rest => some rest.reverse
  | '\r' :: rest => some rest.reverse
  | _ => none

/-- The label at the head and the text behind the dashes that close its line. A label is of visible
ASCII with single spaces. -/
def takeLabel? (text : List Char) : Option (List Char × List Char) := do
  let label := text.takeWhile (· ≠ '-')
  let visible := label.all fun c => 0x20 ≤ c.toNat && c.toNat ≤ 0x7E
  let spaced := !((' ' :: label).zip label).contains (' ', ' ')
  if visible && spaced then
    let rest ← after? dashes (text.drop label.length)
    some (label, ← afterBreak? rest)
  else none

/-- The letters of lines that hold 64 each, save the last one, which holds 1 to 64. -/
def joinLines? : Nat → List Char → Option (List Char)
  | 0, _ => none
  | fuel + 1, text =>
      let line := text.take 64
      let rest := text.drop 64
      if rest.isEmpty then
        if line.isEmpty then none else some line
      else do
        let tail ← afterBreak? rest
        if tail.isEmpty then some line else some (line ++ (← joinLines? fuel tail))

def read? (text : String) : Option Part := do
  let text ← dropPreamble? text.toList
  let text ← after? beginMark text
  let (label, body) ← takeLabel? text
  let body ← before? dashes ((beforeBreak? body).getD body)
  let body ← before? label body
  let body ← before? endMark body
  let body ← beforeBreak? body
  let letters ← joinLines? (body.length + 1) body
  let octets ← Base64.decodeChars? letters
  some ⟨String.ofList label, octets⟩

/-- Letters cut into lines of 64, each closed by a line feed. -/
def wrap : Nat → List Char → List Char
  | 0, _ => []
  | _, [] => []
  | fuel + 1, letters => letters.take 64 ++ '\n' :: wrap fuel (letters.drop 64)

/-- The PEM text of a part, with line feeds as line breaks. -/
def write (part : Part) : String :=
  let letters := Base64.encodeChars part.octets
  let label := part.label.toList
  String.ofList (beginMark ++ label ++ dashes ++ ['\n'] ++ wrap (letters.length + 1) letters ++
    endMark ++ label ++ dashes ++ ['\n'])

end Muster.Bytes.Pem
