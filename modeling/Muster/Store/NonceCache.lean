import Muster.Store.Table
/-!
The replay cache: which nonces an agent has used, each until the time from which a replay would be
refused as expired anyway. Every 128th new entry also sweeps out what has expired, so that the cache
stays bounded without a clock of its own.
-/
namespace Muster.Store

/-- The nonces in use with their expiry, and how many were ever recorded. -/
structure NonceCache where
  seen : Table (String × String) Int
  inserts : Nat
deriving Repr

/-- How many records lie between two sweeps. -/
def sweepEvery : Nat := 128

def NonceCache.empty : NonceCache :=
  ⟨Table.empty, 0⟩

instance : Inhabited NonceCache := ⟨NonceCache.empty⟩

def NonceCache.count (cache : NonceCache) : Nat :=
  cache.seen.size

/-- The cache without the entries that expired before a time. -/
def NonceCache.evictExpired (cache : NonceCache) (now : Int) : NonceCache :=
  { cache with seen := cache.seen.filter fun _ expiry => now ≤ expiry }

/-- Is a nonce of an agent free at a time? An expired entry does not count. -/
def NonceCache.isFresh (cache : NonceCache) (agentId nonce : String) (now : Int) : Bool :=
  match cache.seen.get? (agentId, nonce) with
  | none => true
  | some expiry => expiry < now

/-- The cache with one more record, swept if it is the turn. -/
def NonceCache.record (cache : NonceCache) (agentId nonce : String) (expiresAt now : Int) :
    NonceCache :=
  let next : NonceCache := ⟨cache.seen.insert (agentId, nonce) expiresAt, cache.inserts + 1⟩
  if next.inserts % sweepEvery = 0 then next.evictExpired now else next

/-- Records a nonce that is free, and says whether it was. -/
def NonceCache.checkAndInsert (cache : NonceCache) (agentId nonce : String)
    (expiresAt now : Int) : Bool × NonceCache :=
  if cache.isFresh agentId nonce now then (true, cache.record agentId nonce expiresAt now)
  else (false, cache)

end Muster.Store
