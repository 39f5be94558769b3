import Runbook.Staged.Cache
import Runbook.Value.Key

/-!
# Lookups of untyped data

A cache may be asked for anything. What can be no key is refused before anything is counted; a key
that is not staged counts as a lookup that found nothing.
-/

namespace Runbook

/-- Why data has no expression. -/
inductive RequestError where
  | notKey
  | notStaged
deriving DecidableEq, Repr, Inhabited

/-- The expression for data that should be staged, and the cache afterwards. -/
def Cache.request (tool : String) (mode : Mode) (value : Value) (cache : Cache) :
    Except RequestError String × Cache :=
  match value with
  | .staged staged =>
    let found := cache.find tool ⟨mode, staged⟩
    (.ok found.1, found.2)
  | other =>
    if other.isKey then (.error .notStaged, { cache with misses := cache.misses + 1 })
    else (.error .notKey, cache)

end Runbook
