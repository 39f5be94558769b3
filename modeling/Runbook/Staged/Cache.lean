import Runbook.Staged.Query

/-!
# Memoised resolution

A cache remembers the expressions of the staged values that were looked up, for each mode apart,
and counts how many lookups found an entry and how many made one.
-/

namespace Runbook

/-- What a lookup asks for. -/
structure Lookup where
  mode : Mode
  value : Staged
deriving DecidableEq, Repr, Inhabited

/-- The expression that a lookup yields without a cache. -/
def Lookup.resolve (tool : String) (lookup : Lookup) : String :=
  lookup.value.resolve tool lookup.mode

/-- Expressions found so far, with the counts of lookups that found and that made an entry. -/
structure Cache where
  entries : List (Lookup × String) := []
  hits : Nat := 0
  misses : Nat := 0
deriving Repr, Inhabited

namespace Cache

/-- The cache without its entries, and with nothing counted. -/
def clear (_ : Cache) : Cache := {}

/-- The number of entries. -/
def size (cache : Cache) : Nat := cache.entries.length

def get? (cache : Cache) (lookup : Lookup) : Option String := cache.entries.lookup lookup

/-- The expression for `lookup`, and the cache that remembers it. -/
def find (tool : String) (lookup : Lookup) (cache : Cache) : String × Cache :=
  match cache.get? lookup with
  | some text => (text, { cache with hits := cache.hits + 1 })
  | none =>
    let text := lookup.resolve tool
    (text, { cache with
      entries := (lookup, text) :: cache.entries
      misses := cache.misses + 1 })

end Cache

end Runbook
