import Runbook.Number.Shortest
import Runbook.Value.Json

/-!
# Data that is written as YAML
-/

namespace Runbook.Yaml

/-- Data that has YAML text: scalars, sequences, and mappings with texts as keys. -/
inductive Data where
  | null
  | bool (value : Bool)
  | int (value : Int)
  | float (value : Binary64)
  | text (value : String)
  | list (items : List Data)
  | map (entries : List (String × Data))
deriving Repr, Inhabited

/-- A number as YAML. A number in scientific form has a decimal point. -/
def floatText : Binary64 → String
  | .nan => ".nan"
  | .infinite negative => if negative then "-.inf" else ".inf"
  | number =>
    let digits := number.literal.toList
    if digits.contains '.' then String.ofList digits
    else String.ofList (digits.flatMap fun c ↦ if c = 'e' then ['.', '0', 'e'] else [c])

end Runbook.Yaml
