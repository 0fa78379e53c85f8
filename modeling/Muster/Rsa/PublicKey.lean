import Muster.Bytes.Base64
import Muster.Bytes.Der
import Muster.Text.Blank
/-!
RSA public keys and their one text: Base64 of the DER element that names the algorithm and holds
modulus and exponent. Only keys of a sane shape exist as values, so a key that was read is one that
can be used, and a key has the same text whoever writes it.
-/
namespace Muster.Rsa

open Muster.Bytes

/-- The shape of a usable key: an odd modulus of at most 4096 bits and an odd exponent from 2 to
2^33 - 1 below it. -/
def Admissible (modulus exponent : Nat) : Prop :=
  bitLength modulus ≤ 4096 ∧ exponent < modulus ∧ modulus % 2 = 1 ∧ exponent % 2 = 1 ∧
    2 ≤ exponent ∧ exponent < Nat.pow 2 33

instance (modulus exponent : Nat) : Decidable (Admissible modulus exponent) := by
  unfold Admissible; infer_instance

/-- A public key of a usable shape. -/
structure PublicKey where
  modulus : Nat
  exponent : Nat
  admissible : Admissible modulus exponent
deriving DecidableEq

/-- Why a text is no public key. -/
inductive KeyTextError
  | notBase64
  | notAKey
deriving Repr, DecidableEq

def KeyTextError.message : KeyTextError → String
  | .notBase64 => "invalid base64"
  | .notAKey => "invalid public key"

def PublicKey.bits (key : PublicKey) : Nat :=
  bitLength key.modulus

/-- The octets of the modulus, which is also the size of a signature. -/
def PublicKey.size (key : PublicKey) : Nat :=
  width key.modulus

/-- The algorithm identifier: the object 1.2.840.113549.1.1.1 with the parameters NULL. -/
def algorithmContents : List UInt8 :=
  [0x06, 0x09, 0x2A, 0x86, 0x48, 0x86, 0xF7, 0x0D, 0x01, 0x01, 0x01, 0x05, 0x00]

def PublicKey.toDer (key : PublicKey) : List UInt8 :=
  Der.sequence [
    Der.element Der.sequenceTag algorithmContents,
    Der.bitString (Der.sequence [Der.natural key.modulus, Der.natural key.exponent])]

/-- The modulus and exponent that the octets hold, whatever their shape. -/
def numbersOfDer? (bytes : List UInt8) : Option (Nat × Nat) := do
  let outer ← Der.whole? Der.sequenceTag bytes
  let (algorithm, rest) ← Der.take? Der.sequenceTag outer
  let bits ← Der.whole? Der.bitStringTag rest
  let inner ← Der.whole? Der.sequenceTag (← Der.bitStringOctets? bits)
  let (modulus, rest) ← Der.takeNatural? inner
  let (exponent, rest) ← Der.takeNatural? rest
  if algorithm = algorithmContents ∧ rest.isEmpty then some (modulus, exponent) else none

/-- The key with these numbers, if their shape is usable. -/
def PublicKey.ofNumbers? (modulus exponent : Nat) : Option PublicKey :=
  if h : Admissible modulus exponent then some ⟨modulus, exponent, h⟩ else none

def PublicKey.ofDer? (bytes : List UInt8) : Option PublicKey := do
  let (modulus, exponent) ← numbersOfDer? bytes
  PublicKey.ofNumbers? modulus exponent

def PublicKey.encode (key : PublicKey) : String :=
  Base64.encode key.toDer

/-- The key that a text stands for. Blank characters at the two ends of the text are no part of
it. -/
def PublicKey.decode (text : String) : Except KeyTextError PublicKey :=
  match Base64.decode? (Text.trim text) with
  | none => .error .notBase64
  | some bytes =>
      match PublicKey.ofDer? bytes with
      | none => .error .notAKey
      | some key => .ok key

end Muster.Rsa
