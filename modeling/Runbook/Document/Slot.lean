import Runbook.Text.Identifier
import Runbook.Value.Literal

/-!
# Slots

Some slots of blocks hold any value, but only some values make sense there. These readings of a
value are what the control-flow check demands and what emission uses.
-/

namespace Runbook

/-- How often a loop runs at most. -/
inductive Bound where
  | count (times : Nat)
  | staged (value : Staged)
deriving DecidableEq, Repr, Inhabited

namespace Value

/-- The external variable that a value names: a staged root, or an identifier. A member that is an
identifier passes, and is written as the member that it is. -/
def variableName? : Value → Option String
  | .staged value => if value.isRoot then some value.root else none
  | .text name => if Text.isIdentifier name then some name else none
  | .member m => if Text.isIdentifier m.text then some m.display else none
  | _ => none

def bound? : Value → Option Bound
  | .staged value => some (.staged value)
  | .int n => if 0 ≤ n then some (.count n.toNat) else none
  | _ => none

def staged? : Value → Option Staged
  | .staged value => some value
  | _ => none

end Value

end Runbook
