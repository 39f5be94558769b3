import Runbook.Emission
import Runbook.Text.Blank
import Runbook.Value.Json

/-!
# Assertions

A condition is written as an assertion in the style of the shell. A negation and the operands of a
conjunction or disjunction stand in parentheses unless they are literals or comparisons.
-/

namespace Runbook

namespace Operand

/-- The text of an operand: JSON, or the expression of a staged value. -/
def render : Operand → Emission String
  | .null => .done "null"
  | .bool b => .done (jsonBool b)
  | .int n => .done (toString n)
  | .float x => .done x.json
  | .text s => .done (Text.jsonString s)
  | .staged value => .raw value

end Operand

namespace Condition

/-- The condition needs no parentheses inside another one. -/
def isSimple : Condition → Bool
  | .literal _ | .compare .. => true
  | _ => false

/-- The text of a condition inside another one. -/
def grouped (condition : Condition) (text : String) : String :=
  if condition.isSimple then text else "(" ++ text ++ ")"

mutual
/-- The assertion that a condition holds. -/
def render : Condition → Emission String
  | .literal value => .done (jsonBool value)
  | .ref value => do return truthiness (← Emission.raw value)
  | .not operand => do return "!" ++ operand.grouped (← render operand)
  | .all operands => do return Text.join " && " (← renderEach operands)
  | .any operands => do return Text.join " || " (← renderEach operands)
  | .compare op left right => do
    let first ← Emission.raw left
    let second ← right.render
    return first ++ " " ++ op.symbol ++ " " ++ second
  | .shellTest test => .done (Text.trim test)

/-- The texts of operands. -/
def renderEach : List Condition → Emission (List String)
  | [] => .done []
  | condition :: rest => do
    let first ← render condition
    let others ← renderEach rest
    return condition.grouped first :: others
end

/-- The assertion for a value that stands for a condition. -/
def renderValue (value : Value) : Emission String :=
  match ofValue? value with
  | some condition => condition.render
  | none => .fail (.notCondition value)

end Condition

end Runbook
