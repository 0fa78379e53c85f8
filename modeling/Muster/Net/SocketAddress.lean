import Muster.Text.Decimal
import Muster.Text.Hexadecimal
/-!
The address of a socket: an internet address and a port, and their text. The text of a version 4
address has four decimal octets; that of a version 6 address has eight groups in hexadecimal, where
the longest run of zero groups is written as two colons.
-/
namespace Muster.Net

open Muster.Text

/-- An internet address. -/
inductive IpAddress
  | v4 (octets : Vector UInt8 4)
  | v6 (groups : Vector UInt16 8)
deriving Repr, DecidableEq

/-- An address and a port. The scope, which only version 6 knows, is zero where none is given. -/
structure SocketAddress where
  ip : IpAddress
  port : UInt16
  scope : UInt32 := 0
deriving Repr, DecidableEq

/-- The value of a digit in a base of at most sixteen. -/
def digitBelow? (base : Nat) (c : Char) : Option Nat :=
  (hexDigit? c).filter (· < base)

/-- A number at the head of a text that is below a limit, and the rest. The number takes all digits
that are there; it must not have more than the given count of them. -/
def takeNumber (base limit : Nat) (most : Option Nat) (text : List Char) :
    Option (Nat × List Char) :=
  let digits := text.takeWhile fun c => (digitBelow? base c).isSome
  let value := digits.foldl (fun n c => n * base + (digitBelow? base c).getD 0) 0
  if digits.isEmpty ∨ most.any (· < digits.length) ∨ limit ≤ value then none
  else some (value, text.drop digits.length)

/-- The rest of a text behind a character that it must begin with. -/
def takeChar (c : Char) : List Char → Option (List Char)
  | d :: rest => if d = c then some rest else none
  | [] => none

/-- A decimal octet. A zero leads only where it stands alone. -/
def takeOctet (text : List Char) : Option (UInt8 × List Char) := do
  let (n, rest) ← takeNumber 10 256 (some 3) text
  if text.head? = some '0' ∧ text.length ≠ rest.length + 1 then none else some (UInt8.ofNat n, rest)

def takeOctets (text : List Char) : Option (Vector UInt8 4 × List Char) := do
  let (a, rest) ← takeOctet text
  let (b, rest) ← takeOctet (← takeChar '.' rest)
  let (c, rest) ← takeOctet (← takeChar '.' rest)
  let (d, rest) ← takeOctet (← takeChar '.' rest)
  some (#v[a, b, c, d], rest)

/-- The two groups that four octets fill. -/
def groupsOfOctets (octets : Vector UInt8 4) : List UInt16 :=
  [octets[0].toUInt16 <<< 8 ||| octets[1].toUInt16, octets[2].toUInt16 <<< 8 ||| octets[3].toUInt16]

/-- At most so many groups with colons in between, whether they end in four octets, and the rest. No
colon is expected before the first one. -/
def takeGroups : Nat → Bool → List Char → List UInt16 × Bool × List Char
  | 0, _, text => ([], false, text)
  | room + 1, isFirst, text =>
      match if isFirst then some text else takeChar ':' text with
      | none => ([], false, text)
      | some behind =>
          match if 0 < room then takeOctets behind else none with
          | some (octets, rest) => (groupsOfOctets octets, true, rest)
          | none =>
              match takeNumber 16 65536 (some 4) behind with
              | none => ([], false, text)
              | some (n, rest) =>
                  let (groups, octets, rest) := takeGroups room false rest
                  (UInt16.ofNat n :: groups, octets, rest)

/-- A version 6 address. Two colons stand for one group of zeroes at least, and octets come only at
the very end. -/
def takeV6 (text : List Char) : Option (Vector UInt16 8 × List Char) :=
  let (front, octets, rest) := takeGroups 8 true text
  if front.length = 8 then some (ofGroups front, rest)
  else if octets then none
  else do
    let rest ← takeChar ':' (← takeChar ':' rest)
    let (back, _, rest) := takeGroups (7 - front.length) true rest
    some (ofGroups (front ++ List.replicate (8 - front.length - back.length) 0 ++ back), rest)
where
  ofGroups (groups : List UInt16) : Vector UInt16 8 :=
    Vector.ofFn fun i => groups.getD i.val 0

/-- A port behind a colon, up to the end of the text. -/
def endingPort? (text : List Char) : Option UInt16 := do
  let (n, rest) ← takeNumber 10 65536 none (← takeChar ':' text)
  if rest.isEmpty then some (UInt16.ofNat n) else none

/-- The scope behind a percent sign. What is no scope is left. -/
def takeScope (text : List Char) : UInt32 × List Char :=
  match (takeChar '%' text).bind (takeNumber 10 4294967296 none) with
  | some (n, rest) => (UInt32.ofNat n, rest)
  | none => (0, text)

def SocketAddress.ofText? (text : String) : Option SocketAddress :=
  v4 text.toList <|> v6 text.toList
where
  v4 (text : List Char) : Option SocketAddress := do
    let (octets, rest) ← takeOctets text
    some ⟨.v4 octets, ← endingPort? rest, 0⟩
  v6 (text : List Char) : Option SocketAddress := do
    let (groups, rest) ← takeV6 (← takeChar '[' text)
    let (scope, rest) := takeScope rest
    some ⟨.v6 groups, ← endingPort? (← takeChar ']' rest), scope⟩

def octetsText (octets : List UInt8) : String :=
  ".".intercalate (octets.map fun n => ofInt n.toNat)

/-- Groups in hexadecimal with colons in between. -/
def groupsText (groups : List UInt16) : String :=
  ":".intercalate (groups.map fun n => String.ofList (hexDigits n.toNat))

/-- The length of the run of zeroes that a list begins with. -/
def zeroRun (groups : List UInt16) : Nat :=
  (groups.takeWhile (· = 0)).length

/-- Where the first of the longest runs of zeroes begins, and how long it is. -/
def longestZeroRun (groups : List UInt16) : Nat × Nat :=
  (List.range groups.length).foldl
    (fun (start, length) i =>
      let here := zeroRun (groups.drop i)
      if length < here then (i, here) else (start, length))
    (0, 0)

/-- The octets of a version 4 address that is written as a version 6 address. -/
def mappedOctets? : List UInt16 → Option (List UInt8)
  | [0, 0, 0, 0, 0, 0xFFFF, high, low] =>
      some [(high >>> 8).toUInt8, high.toUInt8, (low >>> 8).toUInt8, low.toUInt8]
  | _ => none

def v6Text (groups : List UInt16) : String :=
  match mappedOctets? groups with
  | some octets => "::ffff:" ++ octetsText octets
  | none =>
      let (start, length) := longestZeroRun groups
      if 1 < length then
        groupsText (groups.take start) ++ "::" ++ groupsText (groups.drop (start + length))
      else groupsText groups

def SocketAddress.text (address : SocketAddress) : String :=
  let port := ":" ++ ofInt address.port.toNat
  match address.ip with
  | .v4 octets => octetsText octets.toList ++ port
  | .v6 groups =>
      let scope := if address.scope = 0 then "" else "%" ++ ofInt address.scope.toNat
      "[" ++ v6Text groups.toList ++ scope ++ "]" ++ port

end Muster.Net
