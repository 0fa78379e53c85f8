import Muster.Bytes.Digest
/-!
A source of random octets as a value: a seed and the number of blocks drawn from it. Two draws from
one source are draws from different blocks, and drawing again from the same value repeats itself.
-/
namespace Muster.Bytes

/-- A seed and how many blocks have been drawn. -/
structure Entropy where
  seed : List UInt8
  drawn : Nat
deriving Repr, DecidableEq

def Entropy.block (source : Entropy) : List UInt8 × Entropy :=
  let counter := (List.range 8).map fun i => UInt8.ofNat (source.drawn / Nat.pow 256 (7 - i))
  (Digest.sha256 (source.seed ++ counter), ⟨source.seed, source.drawn + 1⟩)

def Entropy.blocks : Nat → Entropy → List UInt8 × Entropy
  | 0, source => ([], source)
  | count + 1, source =>
      let (first, source) := source.block
      let (rest, source) := Entropy.blocks count source
      (first ++ rest, source)

/-- The next octets; what is left of their last block is thrown away. -/
def Entropy.octets (count : Nat) (source : Entropy) : List UInt8 × Entropy :=
  let (drawn, source) := source.blocks ((count + 31) / 32)
  (drawn.take count, source)

theorem Entropy.length_blocks (count : Nat) (source : Entropy) :
    (source.blocks count).1.length = 32 * count := by
  induction count generalizing source with
  | zero => rfl
  | succ count ih =>
      have hblock : source.block.1.length = 32 := Digest.length_sha256 _
      rw [Entropy.blocks, List.length_append, hblock, ih]
      omega

theorem Entropy.length_octets (count : Nat) (source : Entropy) :
    (source.octets count).1.length = count := by
  have hblocks := source.length_blocks ((count + 31) / 32)
  rw [Entropy.octets, List.length_take, hblocks]
  omega

end Muster.Bytes
