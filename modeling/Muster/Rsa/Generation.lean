import Muster.Rsa.PrivateKey
import Muster.Bytes.Entropy
/-!
Fresh private keys of a wanted modulus length. The two primes begin with two one bits, so their
product has exactly the wanted length; lengths with too few such primes are refused.
-/
namespace Muster.Rsa

open Muster.Bytes

def generatedExponent : Nat := 65537

/-- Fewer bits than these leave too few primes. -/
def leastBits : Nat := 17

/-- The primes below 200, which divide most candidates out and serve as bases of the test. -/
def smallPrimes : List Nat := [
  2, 3, 5, 7, 11, 13, 17, 19, 23, 29, 31, 37, 41, 43, 47, 53, 59, 61, 67, 71, 73, 79, 83, 89, 97,
  101, 103, 107, 109, 113, 127, 131, 137, 139, 149, 151, 157, 163, 167, 173, 179, 181, 191, 193,
  197, 199]

/-- Does squaring reach minus one within so many steps? -/
def squaresToMinusOne (n : Nat) : Nat → Nat → Bool
  | 0, _ => false
  | steps + 1, x => x = n - 1 || squaresToMinusOne n steps (x * x % n)

/-- The largest odd divisor and how often two divides; at most `steps` divisions are tried. -/
def oddPart : Nat → Nat → Nat × Nat
  | 0, n => (n, 0)
  | steps + 1, n =>
      if n % 2 = 0 then
        let (odd, twos) := oddPart steps (n / 2)
        (odd, twos + 1)
      else (n, 0)

/-- Does an odd number pass the test of Miller and Rabin to a base? -/
def passesBase (n base : Nat) : Bool :=
  let (odd, twos) := oddPart (n.log2 + 1) (n - 1)
  let x := powerMod base odd n
  x = 1 || squaresToMinusOne n twos x

/-- No small prime divides the number, unless it is that prime, and it passes the test to the
first twenty bases. -/
def isProbablePrime (n : Nat) : Bool :=
  if smallPrimes.contains n then true
  else n ≥ 2 && smallPrimes.all (n % · ≠ 0) && (smallPrimes.take 20).all (passesBase n)

/-- A prime that the exponent has an inverse for. -/
def isSuitablePrime (n : Nat) : Bool :=
  n % generatedExponent ≠ 1 && isProbablePrime n

/-- The first suitable prime among the odd numbers from a start on. -/
def searchPrime? : Nat → Nat → Option Nat
  | 0, _ => none
  | tries + 1, n => if isSuitablePrime n then some n else searchPrime? tries (n + 2)

/-- A prime of exactly so many bits, the first two of them ones. -/
def drawPrime? (bits : Nat) : Nat → Entropy → Option (Nat × Entropy)
  | 0, _ => none
  | rounds + 1, source =>
      let (octets, source) := source.octets ((bits + 7) / 8)
      let low := toNat octets % Nat.pow 2 (bits - 2)
      let start := 3 * Nat.pow 2 (bits - 2) + (low / 2) * 2 + 1
      match searchPrime? (bits * 4 + 16) start with
      | some prime =>
          if bitLength prime = bits then some (prime, source) else drawPrime? bits rounds source
      | none => drawPrime? bits rounds source

def keyOfPrimes? (bits first second : Nat) : Option PrivateKey := do
  let publicKey ← PublicKey.ofNumbers? (first * second) generatedExponent
  let secret := inverseMod generatedExponent ((first - 1) * (second - 1))
  let key : PrivateKey := ⟨publicKey, secret, first, second⟩
  if publicKey.bits = bits ∧ first ≠ second ∧ key.isConsistent then some key else none

/-- A key of exactly so many bits. -/
def generateFrom? (bits : Nat) : Nat → Entropy → Option PrivateKey
  | 0, _ => none
  | rounds + 1, source =>
      match drawPrime? (bits - bits / 2) 64 source with
      | none => none
      | some (first, source) =>
          match drawPrime? (bits / 2) 64 source with
          | none => none
          | some (second, source) =>
              match keyOfPrimes? bits first second with
              | some key => some key
              | none => generateFrom? bits rounds source

/-- A key of exactly so many bits, unless they are too few. -/
def PrivateKey.generate? (bits : Nat) (source : Entropy) : Option PrivateKey :=
  if bits < leastBits then none else generateFrom? bits 64 source

end Muster.Rsa
