import Runbook.Document.Block
import Runbook.Emission
import Runbook.Text.Lines

/-!
# Inline markdown
-/

namespace Runbook

namespace Inline

mutual
/-- The markdown of an inline node. -/
def emit : Inline → Emission String
  | .text value => .done value
  | .staged value => .raw value
  | .bold children => do return "**" ++ (← emitAll children) ++ "**"
  | .italic children => do return "*" ++ (← emitAll children) ++ "*"
  | .code content => do return "`" ++ (← Emission.content content) ++ "`"
  | .link url children => do return "[" ++ (← emitAll children) ++ "](" ++ url ++ ")"
  | .lineBreak => .done "\n"

/-- The markdown of inline nodes one after another. -/
def emitAll : List Inline → Emission String
  | [] => .done ""
  | node :: rest => do
    let first ← emit node
    let others ← emitAll rest
    return first ++ others
end

end Inline

end Runbook
