import Muster.Text.Hexadecimal
import Muster.Text.Utf8
/-!
Percent-encoded octets: a percent sign and two hexadecimal digits stand for one octet. A percent sign
without two digits stands for itself.
-/
namespace Muster.Http

open Muster.Text

def octetDigit? (b : UInt8) : Option Nat :=
  hexDigit? (Char.ofNat b.toNat)

def percentDecode : List UInt8 → List UInt8
  | 0x25 :: a :: b :: rest =>
      match octetDigit? a, octetDigit? b with
      | some high, some low => UInt8.ofNat (high * 16 + low) :: percentDecode rest
      | _, _ => 0x25 :: percentDecode (a :: b :: rest)
  | b :: rest => b :: percentDecode rest
  | [] => []

/-- The text that percent-encoded characters stand for, if they stand for one. -/
def percentText? (text : String) : Option String :=
  ofUtf8? (percentDecode (toUtf8 text))

/-- The text of a part of a form: plus signs are spaces, and what is no text is shown as such. -/
def formText (text : String) : String :=
  let spaced := (toUtf8 text).map fun b => if b = '+'.toUInt8 then ' '.toUInt8 else b
  ofUtf8Lossy (percentDecode spaced)

end Muster.Http
