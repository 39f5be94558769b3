import Runbook.Number.Binary64
import Runbook.Staged.Basic

/-!
# Conditions

A condition describes a decision over staged values. It is never evaluated here: whoever executes
the runbook decides.
-/

namespace Runbook

/-- A comparison between two operands. -/
inductive CompareOp where
  | eq | neq | gt | gte | lt | lte
deriving DecidableEq, Repr, Inhabited

namespace CompareOp

def all : List CompareOp := [.eq, .neq, .gt, .gte, .lt, .lte]

def name : CompareOp → String
  | .eq => "eq"
  | .neq => "neq"
  | .gt => "gt"
  | .gte => "gte"
  | .lt => "lt"
  | .lte => "lte"

/-- The operator of a comparison in assertions. -/
def symbol : CompareOp → String
  | .eq => "=="
  | .neq => "!="
  | .gt => ">"
  | .gte => ">="
  | .lt => "<"
  | .lte => "<="

def ofName? (text : String) : Option CompareOp := all.find? (·.name == text)

end CompareOp

/-- The right side of a comparison: a staged value or a scalar. -/
inductive Operand where
  | null
  | bool (value : Bool)
  | int (value : Int)
  | float (value : Binary64)
  | text (value : String)
  | staged (value : Staged)
deriving DecidableEq, Repr, Inhabited

/-- A decision over staged values. -/
inductive Condition where
  /-- The staged value is neither empty nor null nor false. -/
  | ref (value : Staged)
  /-- Known when the document is compiled. -/
  | literal (value : Bool)
  | not (operand : Condition)
  | all (operands : List Condition)
  | any (operands : List Condition)
  | compare (op : CompareOp) (left : Staged) (right : Operand)
  /-- A test in the language of the shell, kept as its author wrote it. -/
  | shellTest (test : String)
deriving Repr, Inhabited

namespace Condition

inductive Form where
  | ref | literal | not | all | any | compare | shellTest
deriving DecidableEq, Repr, Inhabited

namespace Form

def every : List Form := [.ref, .literal, .not, .all, .any, .compare, .shellTest]

def name : Form → String
  | .ref => "ref"
  | .literal => "literal"
  | .not => "not"
  | .all => "and"
  | .any => "or"
  | .compare => "compare"
  | .shellTest => "shell-test"

end Form

def form : Condition → Form
  | .ref _ => .ref
  | .literal _ => .literal
  | .not _ => .not
  | .all _ => .all
  | .any _ => .any
  | .compare .. => .compare
  | .shellTest _ => .shellTest

end Condition

end Runbook
