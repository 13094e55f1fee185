/-
RouteAccess/Pattern/Cache.lean

A bounded store of compiled patterns.  Entries stand in the order of their last
use, the latest first, and the one used longest ago gives way to a new one.
Each compilation has a serial number, so that a matcher can be told from
another one of the same pattern.
-/

namespace RouteAccess

/-- A compiled pattern. -/
structure Matcher where
  pattern : String
  serial : Nat
deriving DecidableEq, Repr

/-- The compiled patterns at hand, the one used last in front. -/
structure MatcherCache where
  entries : List Matcher := []
  hits : Nat := 0
  misses : Nat := 0
  /-- the serial number of the next compilation -/
  next : Nat := 0
deriving Repr

namespace MatcherCache

/-- The most patterns that are kept. -/
def capacity : Nat := 1024

/-- How many patterns are kept. -/
def size (cache : MatcherCache) : Nat :=
  cache.entries.length

/-- No patterns, and counters at zero. -/
def clear (cache : MatcherCache) : MatcherCache where
  next := cache.next

/-- The matcher of a pattern, kept or compiled now. -/
def compile (cache : MatcherCache) (pattern : String) : Matcher × MatcherCache :=
  match cache.entries.find? (·.pattern = pattern) with
  | some m =>
    (m, { cache with
      entries := m :: cache.entries.filter (·.pattern ≠ pattern)
      hits := cache.hits + 1 })
  | none =>
    let m : Matcher := ⟨pattern, cache.next⟩
    (m, { cache with
      -- the last entry is the one that was used longest ago
      entries := (m :: cache.entries).take capacity
      misses := cache.misses + 1
      next := cache.next + 1 })

/-! ### Runs -/

/-- What a cache is asked to do. -/
inductive Use
  | compile (pattern : String)
  | clear
deriving DecidableEq, Repr

/-- The cache after one use. -/
def step (cache : MatcherCache) : Use → MatcherCache
  | .compile pattern => (cache.compile pattern).2
  | .clear => cache.clear

/-- The cache after several uses, one after the other. -/
def run (cache : MatcherCache) (uses : List Use) : MatcherCache :=
  uses.foldl step cache

end MatcherCache

end RouteAccess
