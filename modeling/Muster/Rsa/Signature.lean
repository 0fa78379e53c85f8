import Muster.Rsa.PublicKey
import Muster.Rsa.Power
import Muster.Bytes.Digest
/-!
Signatures after the probabilistic scheme (PSS) with SHA-256 for the message and for the mask and a
salt of 32 octets. The encoded message is one bit shorter than the modulus; a signature is a number
below the modulus in as many octets as the modulus has.
-/
namespace Muster.Rsa

open Muster.Bytes

/-- The octets of a digest and of the salt. -/
def saltSize : Nat := 32

/-- The mask made of a seed: the digests of the seed with a counter, cut to the wanted length. -/
def mask (seed : List UInt8) (length : Nat) : List UInt8 :=
  let blocks := (List.range ((length + 31) / 32)).map fun i =>
    Digest.sha256 (seed ++ ofNatPadded 4 i)
  blocks.flatten.take length

/-- The octets of two lists of one length, put together bit by bit. -/
def xorOctets (xs ys : List UInt8) : List UInt8 :=
  xs.zipWith (· ^^^ ·) ys

/-- The digest that ties a message's digest to a salt. -/
def saltedDigest (digest salt : List UInt8) : List UInt8 :=
  Digest.sha256 (List.replicate 8 0 ++ digest ++ salt)

/-- The octets of an encoded message for a modulus of so many bits. -/
def encodedSize (bits : Nat) : Nat :=
  (bits - 1 + 7) / 8

/-- The bits of its first octet that an encoded message uses. -/
def headMask (bits : Nat) : UInt8 :=
  UInt8.ofNat (0xFF >>> (8 * encodedSize bits - (bits - 1)))

/-- The octets with the unused bits of the first one cleared. -/
def clearHead (bits : Nat) : List UInt8 → List UInt8
  | [] => []
  | first :: rest => (first &&& headMask bits) :: rest

/-- The encoded message, unless the modulus is too short to hold one. -/
def encodeMessage? (bits : Nat) (message salt : List UInt8) : Option (List UInt8) :=
  let size := encodedSize bits
  if size < saltSize + salt.length + 2 then none
  else
    let tied := saltedDigest (Digest.sha256 message) salt
    let filling := List.replicate (size - salt.length - saltSize - 2) 0 ++ 0x01 :: salt
    let masked := clearHead bits (xorOctets filling (mask tied filling.length))
    some (masked ++ tied ++ [0xBC])

/-- Are the octets an encoding of the message? -/
def isEncoding (bits : Nat) (message encoded : List UInt8) : Bool :=
  let size := encodedSize bits
  if size < saltSize + saltSize + 2 ∨ encoded.length ≠ size ∨ encoded.getLast? ≠ some 0xBC then
    false
  else
    let masked := encoded.take (size - saltSize - 1)
    let tied := (encoded.drop (size - saltSize - 1)).take saltSize
    let filling := clearHead bits (xorOctets masked (mask tied masked.length))
    let zeros := size - saltSize - saltSize - 2
    clearHead bits masked = masked && filling.take zeros = List.replicate zeros 0 &&
      filling[zeros]? = some 0x01 &&
      saltedDigest (Digest.sha256 message) (filling.drop (zeros + 1)) = tied

/-- Is the octet sequence a signature of the message under the key? Octets of the opened signature
in front of the encoded message are not looked at; there is one only where the modulus has one bit
more than a multiple of eight. -/
def PublicKey.verifies (key : PublicKey) (message signature : List UInt8) : Bool :=
  let number := toNat signature
  if signature.length ≠ key.size ∨ key.modulus ≤ number then false
  else
    let opened := ofNatPadded key.size (powerMod number key.exponent key.modulus)
    isEncoding key.bits message (opened.drop (key.size - encodedSize key.bits))

/-- Is the text the Base64 of a signature of the message under the key? -/
def PublicKey.verifiesText (key : PublicKey) (message : List UInt8) (signature : String) : Bool :=
  match Base64.decode? signature with
  | none => false
  | some octets => key.verifies message octets

/-- The same for the text of a key; a text that is no key verifies nothing. -/
def verifiesUnder (keyText : String) (message : List UInt8) (signature : String) : Bool :=
  match PublicKey.decode keyText with
  | .error _ => false
  | .ok key => key.verifiesText message signature

end Muster.Rsa
