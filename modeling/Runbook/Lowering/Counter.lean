import Runbook.Text.Upper
import Runbook.Value.Key

/-!
# Allocated names

Names are allocated by counting: the names for a prefix are the prefix in capitals with 1, 2, and so
on. Prefixes that are equal in capitals share a counter.
-/

namespace Runbook

/-- How many names were allocated for each prefix in capitals. -/
abbrev Counters := List (String × Nat)

namespace Counters

/-- The next name for a prefix, and the counters after it. -/
def allocate (stem : String) (counters : Counters) : String × Counters :=
  let key := Text.upper stem
  let count := (counters.lookup key).getD 0 + 1
  (key ++ "_" ++ toString count, setName key count counters)

end Counters

end Runbook
