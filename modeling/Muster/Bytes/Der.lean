import Muster.Bytes.Digits
/-!
DER elements: a tag octet, the length of the contents and the contents. Reading takes the one
shortest form of every length and integer and nothing else, so an element has exactly one text.
-/
namespace Muster.Bytes.Der

/-- The tag octets that keys are made of. -/
def integerTag : UInt8 := 0x02
def bitStringTag : UInt8 := 0x03
def octetStringTag : UInt8 := 0x04
def sequenceTag : UInt8 := 0x30

/-- The octets of a length: one below 128, else their count and the number. -/
def encodeLength (n : Nat) : List UInt8 :=
  if n < 128 then [UInt8.ofNat n]
  else UInt8.ofNat (0x80 + width n) :: ofNat n

def element (tag : UInt8) (contents : List UInt8) : List UInt8 :=
  tag :: encodeLength contents.length ++ contents

/-- A length and the octets behind it, if the length is in its shortest form and below 2^28. -/
def takeLength? : List UInt8 → Option (Nat × List UInt8)
  | [] => none
  | first :: rest =>
      if first < 0x80 then some (first.toNat, rest)
      else
        let count := first.toNat - 0x80
        let digits := rest.take count
        let n := toNat digits
        if count = 0 ∨ 4 < count ∨ digits.length ≠ count ∨ Nat.pow 2 28 ≤ n then none
        else if encodeLength n = first :: digits then some (n, rest.drop count)
        else none

/-- The tag and contents of the element at the head, with the octets behind it. -/
def takeAny? : List UInt8 → Option (UInt8 × List UInt8 × List UInt8)
  | [] => none
  | tag :: rest => do
      let (n, rest) ← takeLength? rest
      if rest.length < n then none else some (tag, rest.take n, rest.drop n)

/-- The contents of the element at the head, which must have the given tag. -/
def take? (tag : UInt8) (bytes : List UInt8) : Option (List UInt8 × List UInt8) := do
  let (found, contents, rest) ← takeAny? bytes
  if found = tag then some (contents, rest) else none

/-- The contents of an element that is the whole of the octets. -/
def whole? (tag : UInt8) (bytes : List UInt8) : Option (List UInt8) := do
  let (contents, rest) ← take? tag bytes
  if rest.isEmpty then some contents else none

/-- The contents of an integer that is not negative: a zero octet comes first exactly where the
number would otherwise begin with the sign bit, or is zero. -/
def naturalContents (n : Nat) : List UInt8 :=
  match ofNat n with
  | [] => [0]
  | first :: rest => if first < 0x80 then first :: rest else 0 :: first :: rest

def natural (n : Nat) : List UInt8 :=
  element integerTag (naturalContents n)

/-- The integer at the head, if it is not negative and in its shortest form. -/
def takeNatural? (bytes : List UInt8) : Option (Nat × List UInt8) := do
  let (contents, rest) ← take? integerTag bytes
  let n := toNat contents
  if naturalContents n = contents then some (n, rest) else none

def sequence (elements : List (List UInt8)) : List UInt8 :=
  element sequenceTag elements.flatten

/-- A bit string element whose bits are whole octets. -/
def bitString (octets : List UInt8) : List UInt8 :=
  element bitStringTag (0 :: octets)

/-- The octets of a bit string that has no unused bits. -/
def bitStringOctets? : List UInt8 → Option (List UInt8)
  | 0 :: octets => some octets
  | _ => none

end Muster.Bytes.Der
