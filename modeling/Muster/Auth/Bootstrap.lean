import Muster.Bytes.Digest
import Muster.Text.Utf8
/-!
Bootstrap tokens, with which new agents register. Of each token only the digest of its key is kept,
and a presented key is compared digest to digest, over all octets whatever the first ones say.
-/
namespace Muster.Auth

open Muster.Bytes Muster.Text

/-- A token as it is configured. -/
structure BootstrapToken where
  id : String
  key : String
deriving Repr, DecidableEq

/-- Key digests by token id. -/
structure BootstrapTokens where
  digests : List (String × List UInt8)
deriving Repr, DecidableEq

def keyDigest (key : String) : List UInt8 :=
  Digest.sha256 (toUtf8 key)

/-- The digests of some tokens. Of several tokens with one id the last one counts. -/
def BootstrapTokens.ofTokens (tokens : List BootstrapToken) : BootstrapTokens :=
  ⟨tokens.reverse.map fun token => (token.id, keyDigest token.key)⟩

def BootstrapTokens.isEmpty (tokens : BootstrapTokens) : Bool :=
  tokens.digests.isEmpty

/-- The bits in which two octet sequences of one length differ, gathered in one octet. -/
def difference (xs ys : List UInt8) : UInt8 :=
  (xs.zip ys).foldl (fun bits (x, y) => bits ||| (x ^^^ y)) 0

def BootstrapTokens.verify (tokens : BootstrapTokens) (id key : String) : Bool :=
  let presented := keyDigest key
  match tokens.digests.lookup id with
  | some expected => difference expected presented = 0
  | none => false

/-- A bit that has been gathered is never lost again. -/
theorem gathered_eq_zero_iff (pairs : List (UInt8 × UInt8)) (bits : UInt8) :
    pairs.foldl (fun bits (x, y) => bits ||| (x ^^^ y)) bits = 0 ↔
      bits = 0 ∧ ∀ pair ∈ pairs, pair.1 = pair.2 := by
  induction pairs generalizing bits with
  | nil => simp
  | cons pair rest ih =>
      rw [List.foldl_cons, ih, UInt8.or_eq_zero_iff, UInt8.xor_eq_zero_iff, List.forall_mem_cons,
        and_assoc]

/-- Nothing differs only between equal sequences. Of a longer one the rest would go unseen, which is
why keys are compared by their digests. -/
theorem difference_eq_zero_iff {xs ys : List UInt8} (hlength : xs.length = ys.length) :
    difference xs ys = 0 ↔ xs = ys := by
  have hfirst : (xs.zip ys).map Prod.fst = xs := List.map_fst_zip (Nat.le_of_eq hlength)
  have hsecond : (xs.zip ys).map Prod.snd = ys := List.map_snd_zip (Nat.le_of_eq hlength.symm)
  rw [difference, gathered_eq_zero_iff, ← List.map_inj_left, hfirst, hsecond]
  exact and_iff_right rfl

theorem difference_self (xs : List UInt8) : difference xs xs = 0 :=
  (difference_eq_zero_iff rfl).2 rfl

theorem length_keyDigest (key : String) : (keyDigest key).length = 32 :=
  Digest.length_sha256 _

/-- A configured token is verified, unless another one with its id comes behind it. -/
theorem BootstrapTokens.verify_ofTokens (front : List BootstrapToken) (token : BootstrapToken) :
    (BootstrapTokens.ofTokens (front ++ [token])).verify token.id token.key = true := by
  simp [BootstrapTokens.verify, BootstrapTokens.ofTokens, difference_self]

end Muster.Auth
