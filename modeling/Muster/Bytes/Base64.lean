/-!
Base64 with the standard alphabet. Four letters write three octets; a shorter last group is filled
with `=`. Reading is strict, so that every octet sequence has exactly one text: the filling is
required and the bits that no octet uses must be zero.
-/
namespace Muster.Bytes.Base64

def letter (sextet : Nat) : Char :=
  if sextet < 26 then Char.ofNat (65 + sextet)
  else if sextet < 52 then Char.ofNat (97 + (sextet - 26))
  else if sextet < 62 then Char.ofNat (48 + (sextet - 52))
  else if sextet = 62 then '+' else '/'

def sextet? (c : Char) : Option Nat :=
  if 'A' ≤ c ∧ c ≤ 'Z' then some (c.toNat - 65)
  else if 'a' ≤ c ∧ c ≤ 'z' then some (c.toNat - 97 + 26)
  else if '0' ≤ c ∧ c ≤ '9' then some (c.toNat - 48 + 52)
  else if c = '+' then some 62
  else if c = '/' then some 63
  else none

/-- The letters of an octet sequence. -/
def encodeChars : List UInt8 → List Char
  | [] => []
  | [a] =>
      let n := a.toNat * 16
      [letter (n / 64), letter (n % 64), '=', '=']
  | [a, b] =>
      let n := (a.toNat * 256 + b.toNat) * 4
      [letter (n / 4096), letter (n / 64 % 64), letter (n % 64), '=']
  | a :: b :: c :: rest =>
      let n := (a.toNat * 256 + b.toNat) * 256 + c.toNat
      letter (n / 262144) :: letter (n / 4096 % 64) :: letter (n / 64 % 64) :: letter (n % 64) ::
        encodeChars rest

/-- The octets that the letters write, if they are the letters of some octets. -/
def decodeChars? : List Char → Option (List UInt8)
  | [] => some []
  | [a, b, '=', '='] => do
      let n := (← sextet? a) * 64 + (← sextet? b)
      if n % 16 = 0 then some [UInt8.ofNat (n / 16)] else none
  | [a, b, c, '='] => do
      let n := ((← sextet? a) * 64 + (← sextet? b)) * 64 + (← sextet? c)
      if n % 4 = 0 then some [UInt8.ofNat (n / 1024), UInt8.ofNat (n / 4)] else none
  | a :: b :: c :: d :: rest => do
      let n := (((← sextet? a) * 64 + (← sextet? b)) * 64 + (← sextet? c)) * 64 + (← sextet? d)
      let tail ← decodeChars? rest
      some (UInt8.ofNat (n / 65536) :: UInt8.ofNat (n / 256) :: UInt8.ofNat n :: tail)
  | _ => none

def encode (bytes : List UInt8) : String :=
  String.ofList (encodeChars bytes)

/-- The octets that a text writes; `none` if it is the text of no octets. -/
def decode? (text : String) : Option (List UInt8) :=
  decodeChars? text.toList

end Muster.Bytes.Base64
