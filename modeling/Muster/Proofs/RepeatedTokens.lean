import Mathlib.Data.List.Induction
import Muster.Auth.Bootstrap
import Muster.Store.Table
/-!
Tokens with one id. They are held as if they were written into a table one after the other, each in
place of those before it, so that a key passes exactly if it has the digest of the last one.
-/
namespace Muster.Auth

open Bytes Store Text

/-- The last of the tokens with an id. -/
def lastWith? (tokens : List BootstrapToken) (id : String) : Option BootstrapToken :=
  (tokens.filter fun token => token.id = id).getLast?

/-- The key digests in a table that the tokens are written into one after the other. -/
def digestTable (tokens : List BootstrapToken) : Table String (List UInt8) :=
  tokens.foldl (fun table token => table.insert token.id (keyDigest token.key)) Table.empty

theorem lastWith?_append_singleton (tokens : List BootstrapToken) (newer : BootstrapToken)
    (id : String) :
    lastWith? (tokens ++ [newer]) id = if id = newer.id then some newer else lastWith? tokens id := by
  by_cases hid : id = newer.id
  · simp [lastWith?, hid]
  · simp [lastWith?, hid, Ne.symm hid]

theorem digestTable_append_singleton (tokens : List BootstrapToken) (newer : BootstrapToken) :
    digestTable (tokens ++ [newer]) =
      (digestTable tokens).insert newer.id (keyDigest newer.key) := by
  rw [digestTable, List.foldl_append, List.foldl_cons, List.foldl_nil, digestTable]

/-- In the list that is kept the later tokens stand in front, and answer first. -/
theorem BootstrapTokens.lookup_ofTokens (tokens : List BootstrapToken) (id : String) :
    (ofTokens tokens).digests.lookup id = (digestTable tokens).get? id := by
  induction tokens using List.reverseRecOn with
  | nil => rfl
  | append_singleton tokens newer ih =>
      rw [digestTable_append_singleton, Table.get?_insert, ← ih, ← lookup_cons_eq]
      simp [ofTokens]

theorem get?_digestTable (tokens : List BootstrapToken) (id : String) :
    (digestTable tokens).get? id = (lastWith? tokens id).map fun token => keyDigest token.key := by
  induction tokens using List.reverseRecOn with
  | nil => rfl
  | append_singleton tokens newer ih =>
      rw [digestTable_append_singleton, Table.get?_insert, lastWith?_append_singleton, ih]
      split <;> rfl

/-- Whatever tokens are configured, a key passes for an id exactly if the last token with the id has
a key with the same digest. The comparison of digests, however long they are, skips no octet: it
accepts equal ones and no others. -/
theorem verified_by_last_token (tokens : List BootstrapToken) (id key : String) :
    ((BootstrapTokens.ofTokens tokens).verify id key = true ↔
      ∃ token, lastWith? tokens id = some token ∧
        Digest.sha256 (toUtf8 token.key) = Digest.sha256 (toUtf8 key)) ∧
    ∀ (size : Nat) (expected presented : Vector UInt8 size),
      difference expected.toList presented.toList = 0 ↔ expected = presented := by
  constructor
  · rw [BootstrapTokens.verify, BootstrapTokens.lookup_ofTokens, get?_digestTable]
    cases lastWith? tokens id with
    | none => simp
    | some token =>
        have hlength : (keyDigest token.key).length = (keyDigest key).length := by
          rw [length_keyDigest, length_keyDigest]
        have hequal : difference (keyDigest token.key) (keyDigest key) = 0 ↔
            Digest.sha256 (toUtf8 token.key) = Digest.sha256 (toUtf8 key) :=
          difference_eq_zero_iff hlength
        simpa using hequal
  · intro size expected presented
    have hlength : expected.toList.length = presented.toList.length := by
      rw [Vector.length_toList, Vector.length_toList]
    rw [difference_eq_zero_iff hlength, Vector.toList_inj]

/-- A key that was replaced passes no longer, whatever stands between it and its successor. -/
example :
    let tokens :=
      BootstrapTokens.ofTokens [⟨"tok-1", "old"⟩, ⟨"tok-2", "other"⟩, ⟨"tok-1", "new"⟩]
    tokens.verify "tok-1" "new" = true ∧ tokens.verify "tok-1" "old" = false := by
  decide +kernel

end Muster.Auth
