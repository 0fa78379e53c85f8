import Muster.Rsa.Signature
import Muster.Bytes.Pem
/-!
RSA private keys with two primes, their PEM text, and signing. A key that is read is checked: its
primes multiply to the modulus and its secret exponent undoes the public one modulo each of them.
-/
namespace Muster.Rsa

open Muster.Bytes

/-- A private key: a public key, its secret exponent and its primes. -/
structure PrivateKey where
  publicKey : PublicKey
  secret : Nat
  first : Nat
  second : Nat
deriving DecidableEq

/-- Do the parts of a key fit together? -/
def PrivateKey.isConsistent (key : PrivateKey) : Bool :=
  let product := key.secret * key.publicKey.exponent
  1 < key.first && 1 < key.second && key.first * key.second = key.publicKey.modulus &&
    product % (key.first - 1) = 1 && product % (key.second - 1) = 1

/-- The secret exponent and the primes of a key text, behind its modulus and public exponent. -/
def privateNumbers? (bytes : List UInt8) : Option (List Nat) := do
  let inner ← Der.whole? Der.sequenceTag bytes
  take 9 inner
where
  take : Nat → List UInt8 → Option (List Nat)
    | 0, rest => if rest.isEmpty then some [] else none
    | count + 1, rest => do
        let (n, rest) ← Der.takeNatural? rest
        some (n :: (← take count rest))

/-- The key of version, modulus, exponents, primes and three numbers that follow from them, which
are not looked at. -/
def PrivateKey.ofNumbers? : List Nat → Option PrivateKey
  | [0, modulus, exponent, secret, first, second, _, _, _] => do
      let publicKey ← PublicKey.ofNumbers? modulus exponent
      let key : PrivateKey := ⟨publicKey, secret, first, second⟩
      if key.isConsistent then some key else none
  | _ => none

/-- Is the element one with the given context-specific number and no nested elements? -/
def contextTag (number : Nat) : UInt8 :=
  UInt8.ofNat (0x80 + number)

/-- The class bits of a tag say that it is context-specific. -/
def isContextTag (tag : UInt8) : Bool :=
  tag &&& 0xC0 = 0x80

/-- Fields behind the key itself: attributes (number 0) are skipped, a public key (number 1) stands
there exactly in version 1, and further numbered fields are ignored. -/
def checkTrailing? (version : Nat) (rest : List UInt8) : Option Unit := do
  let rest ← skipAttributes rest.length rest
  match Der.takeAny? rest with
  | some (tag, contents, tail) =>
      if tag = contextTag 1 then
        let _ ← Der.bitStringOctets? contents
        if version = 1 then skipFields tail.length tail else none
      else if version = 0 then skipFields rest.length rest else none
  | none => if rest.isEmpty ∧ version = 0 then some () else none
where
  skipAttributes : Nat → List UInt8 → Option (List UInt8)
    | 0, rest => some rest
    | fuel + 1, rest =>
        match rest with
        | [] => some []
        | tag :: _ =>
            if tag &&& 0xDF = 0x80 then do
              let (_, _, tail) ← Der.takeAny? rest
              skipAttributes fuel tail
            else some rest
  skipFields : Nat → List UInt8 → Option Unit
    | 0, rest => if rest.isEmpty then some () else none
    | fuel + 1, rest =>
        if rest.isEmpty then some ()
        else do
          let (tag, contents, tail) ← Der.takeAny? rest
          let (_, _, inside) ← Der.takeAny? contents
          if isContextTag tag && tag &&& 0x20 = 0x20 && inside.isEmpty then skipFields fuel tail
          else none

def PrivateKey.ofDer? (bytes : List UInt8) : Option PrivateKey := do
  let outer ← Der.whole? Der.sequenceTag bytes
  let (version, rest) ← Der.takeNatural? outer
  let (algorithm, rest) ← Der.take? Der.sequenceTag rest
  let (octets, rest) ← Der.take? Der.octetStringTag rest
  if version ≤ 1 ∧ algorithm = algorithmContents then
    checkTrailing? version rest
    PrivateKey.ofNumbers? (← privateNumbers? octets)
  else none

def privateLabel : String := "PRIVATE KEY"

def PrivateKey.ofPem? (text : String) : Option PrivateKey := do
  let part ← Pem.read? text
  if part.label = privateLabel then PrivateKey.ofDer? part.octets else none

/-- The inverse of a number modulo another, by the extended Euclidean algorithm; zero if they have
a common divisor. -/
def inverseMod (n modulus : Nat) : Nat :=
  let (divisor, coefficient) := go (modulus.log2 * 2 + 4) modulus n 0 1
  if divisor = 1 then (coefficient % modulus).toNat else 0
where
  go : Nat → Nat → Nat → Int → Int → Nat × Int
    | 0, a, _, s, _ => (a, s)
    | fuel + 1, a, b, s, t =>
        if b = 0 then (a, s) else go fuel b (a % b) t (s - (a / b : Nat) * t)

def PrivateKey.toDer (key : PrivateKey) : List UInt8 :=
  let numbers := [0, key.publicKey.modulus, key.publicKey.exponent, key.secret, key.first,
    key.second, key.secret % (key.first - 1), key.secret % (key.second - 1),
    inverseMod key.second key.first]
  Der.sequence [
    Der.natural 0,
    Der.element Der.sequenceTag algorithmContents,
    Der.element Der.octetStringTag (Der.sequence (numbers.map Der.natural))]

def PrivateKey.toPem (key : PrivateKey) : String :=
  Pem.write ⟨privateLabel, key.toDer⟩

/-- A signature of the message with the given salt, unless the key is too short for one. -/
def PrivateKey.sign? (key : PrivateKey) (salt message : List UInt8) : Option (List UInt8) := do
  let encoded ← encodeMessage? key.publicKey.bits message salt
  let number := powerMod (toNat encoded) key.secret key.publicKey.modulus
  some (ofNatPadded key.publicKey.size number)

/-- The Base64 text of a signature; empty for a key that is too short to sign with. -/
def PrivateKey.signText (key : PrivateKey) (salt message : List UInt8) : String :=
  Base64.encode ((key.sign? salt message).getD [])

end Muster.Rsa
