/-!
The SHA-256 digest of an octet sequence: the message, filled to whole blocks of 64 octets, is fed
block by block into eight 32-bit words.
-/
namespace Muster.Bytes.Digest

/-- The round constants: the first 32 bits of the fractional parts of the cube roots of the first
64 primes. -/
def roundConstants : List UInt32 := [
  0x428a2f98, 0x71374491, 0xb5c0fbcf, 0xe9b5dba5, 0x3956c25b, 0x59f111f1, 0x923f82a4, 0xab1c5ed5,
  0xd807aa98, 0x12835b01, 0x243185be, 0x550c7dc3, 0x72be5d74, 0x80deb1fe, 0x9bdc06a7, 0xc19bf174,
  0xe49b69c1, 0xefbe4786, 0x0fc19dc6, 0x240ca1cc, 0x2de92c6f, 0x4a7484aa, 0x5cb0a9dc, 0x76f988da,
  0x983e5152, 0xa831c66d, 0xb00327c8, 0xbf597fc7, 0xc6e00bf3, 0xd5a79147, 0x06ca6351, 0x14292967,
  0x27b70a85, 0x2e1b2138, 0x4d2c6dfc, 0x53380d13, 0x650a7354, 0x766a0abb, 0x81c2c92e, 0x92722c85,
  0xa2bfe8a1, 0xa81a664b, 0xc24b8b70, 0xc76c51a3, 0xd192e819, 0xd6990624, 0xf40e3585, 0x106aa070,
  0x19a4c116, 0x1e376c08, 0x2748774c, 0x34b0bcb5, 0x391c0cb3, 0x4ed8aa4a, 0x5b9cca4f, 0x682e6ff3,
  0x748f82ee, 0x78a5636f, 0x84c87814, 0x8cc70208, 0x90befffa, 0xa4506ceb, 0xbef9a3f7, 0xc67178f2]

/-- The eight words that a digest is computed in. -/
structure Words where
  a : UInt32
  b : UInt32
  c : UInt32
  d : UInt32
  e : UInt32
  f : UInt32
  g : UInt32
  h : UInt32
deriving Repr, DecidableEq

/-- The words before the first block: the first 32 bits of the fractional parts of the square
roots of the first eight primes. -/
def Words.start : Words :=
  ⟨0x6a09e667, 0xbb67ae85, 0x3c6ef372, 0xa54ff53a, 0x510e527f, 0x9b05688c, 0x1f83d9ab, 0x5be0cd19⟩

def rotate (x : UInt32) (n : UInt32) : UInt32 :=
  (x >>> n) ||| (x <<< (32 - n))

/-- The word that four octets write, most significant first. -/
def word (a b c d : UInt8) : UInt32 :=
  (a.toUInt32 <<< 24) ||| (b.toUInt32 <<< 16) ||| (c.toUInt32 <<< 8) ||| d.toUInt32

/-- The words of an octet sequence; octets short of a word are left out. -/
def wordsOf : List UInt8 → List UInt32
  | a :: b :: c :: d :: rest => word a b c d :: wordsOf rest
  | _ => []

/-- The octets of a word, most significant first. -/
def octetsOf (x : UInt32) : List UInt8 :=
  [(x >>> 24).toUInt8, (x >>> 16).toUInt8, (x >>> 8).toUInt8, x.toUInt8]

/-- The next word of a schedule, from the words 16, 15, 7 and 2 places before it. -/
def scheduleWord (w16 w15 w7 w2 : UInt32) : UInt32 :=
  let s0 := rotate w15 7 ^^^ rotate w15 18 ^^^ (w15 >>> 3)
  let s1 := rotate w2 17 ^^^ rotate w2 19 ^^^ (w2 >>> 10)
  w16 + s0 + w7 + s1

/-- The schedule of a block: its sixteen words and 48 more. -/
def schedule (block : List UInt32) : Array UInt32 :=
  (List.range 48).foldl (fun ws i =>
    ws.push (scheduleWord (ws.getD i 0) (ws.getD (i + 1) 0) (ws.getD (i + 9) 0)
      (ws.getD (i + 14) 0))) block.toArray

/-- One round, with its constant and its schedule word. -/
def round (s : Words) (k w : UInt32) : Words :=
  let s1 := rotate s.e 6 ^^^ rotate s.e 11 ^^^ rotate s.e 25
  let choice := (s.e &&& s.f) ^^^ ((~~~ s.e) &&& s.g)
  let t1 := s.h + s1 + choice + k + w
  let s0 := rotate s.a 2 ^^^ rotate s.a 13 ^^^ rotate s.a 22
  let majority := (s.a &&& s.b) ^^^ (s.a &&& s.c) ^^^ (s.b &&& s.c)
  ⟨t1 + (s0 + majority), s.a, s.b, s.c, s.d + t1, s.e, s.f, s.g⟩

def absorb (s : Words) (block : List UInt32) : Words :=
  let t := (roundConstants.zip (schedule block).toList).foldl (fun t (k, w) => round t k w) s
  ⟨s.a + t.a, s.b + t.b, s.c + t.c, s.d + t.d, s.e + t.e, s.f + t.f, s.g + t.g, s.h + t.h⟩

/-- The message filled to whole blocks: a one bit, zeros, and the bit length in eight octets. -/
def fill (message : List UInt8) : List UInt8 :=
  let size := message.length
  let zeros := (119 - size % 64) % 64
  let bits := size * 8
  message ++ 0x80 :: List.replicate zeros 0 ++
    (List.range 8).map fun i => UInt8.ofNat (bits / Nat.pow 256 (7 - i))

/-- The words after the given number of blocks. -/
def absorbAll : Nat → Words → List UInt32 → Words
  | 0, s, _ => s
  | blocks + 1, s, words => absorbAll blocks (absorb s (words.take 16)) (words.drop 16)

def sha256 (message : List UInt8) : List UInt8 :=
  let words := wordsOf (fill message)
  let s := absorbAll (words.length / 16) Words.start words
  [s.a, s.b, s.c, s.d, s.e, s.f, s.g, s.h].flatMap octetsOf

theorem length_sha256 (message : List UInt8) : (sha256 message).length = 32 := rfl

end Muster.Bytes.Digest
