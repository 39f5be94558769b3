import Runbook.Check.Finding
import Runbook.Document.Slot

/-!
# The control-flow check

The check visits every block and collects what breaks a rule, without stopping. An agent runs in
its own context, so a loop around it does not hold a break inside it.
-/

namespace Runbook

/-! ## Rules of single nodes -/

/-- The finding on a slot that has to name a variable. -/
def checkVariable (holder : Kind) (slot : String) (value : Value) : List Violation :=
  if value.variableName?.isSome then [] else [.badVariable holder slot value]

/-- The finding on a slot that may name a variable. -/
def checkOptionalVariable (holder : Kind) (slot : String) (value : Value) : List Violation :=
  if value.isNull then [] else checkVariable holder slot value

/-- The findings on the slots of a leaf. -/
def Leaf.violations : Leaf → List Violation
  | .stagedCall call => checkVariable .stagedCall "output" call.output
  | .assign assignment => checkVariable .assign "variable" assignment.variableName
  | .assignGroup assignments =>
    assignments.flatMap fun assignment ↦ checkVariable .assign "variable" assignment.variableName
  | .askUser question =>
    let count := question.options.length
    (if minOptions ≤ count ∧ count ≤ maxOptions then [] else [.optionCount count]) ++
      checkVariable .askUser "output" question.output
  | _ => []

/-- The findings on the slots of a container. -/
def Container.violations : Container → List Violation
  | .loop bound counter =>
    (if bound.bound?.isSome then [] else [.badBound bound]) ++
      checkOptionalVariable .loop "counter" counter
  | .agentSpawn spawn => checkOptionalVariable .agentSpawn "output" spawn.output
  | .statusBranch output _ => if output.staged?.isSome then [] else [.badStatusOutput output]
  | .conditional condition =>
    if (Condition.ofValue? condition).isSome then [] else [.badCondition condition]
  | _ => []

def Block.slotViolations : Block → List Violation
  | .leaf content => content.violations
  | .container head _ => head.violations
  | .item _ | .list .. => []

/-- The finding on an else-branch after the given sibling. -/
def Block.elseViolations (block : Block) (previous : Option Kind) : List Violation :=
  if block.kind = .elseBranch ∧ previous ≠ some .conditional then [.danglingElse previous] else []

def Block.breakViolations (block : Block) (inLoop : Bool) : List Violation :=
  if block.kind = .breakLoop ∧ inLoop = false then [.breakOutsideLoop] else []

/-- All that a block itself breaks: after the given sibling, and inside a loop or not. -/
def Block.violations (block : Block) (previous : Option Kind) (inLoop : Bool) : List Violation :=
  block.elseViolations previous ++ block.slotViolations ++ block.breakViolations inLoop

/-- The findings on a block at a path. -/
def Block.findings (block : Block) (path : TreePath) (previous : Option Kind) (inLoop : Bool) :
    List Finding :=
  (block.violations previous inLoop).map fun violation ↦
    ⟨path, violation.kindIn block.kind, violation⟩

/-- Whether a break inside a container is inside a loop. -/
def Container.holdsLoop (inLoop : Bool) : Container → Bool
  | .loop .. => true
  | .agentSpawn _ => false
  | _ => inLoop

/-! ## Errors -/

namespace Block

mutual
/-- The findings on a block and on everything below it. -/
def errors (path : TreePath) (previous : Option Kind) (inLoop : Bool) : Block → List Finding
  | .leaf content => (Block.leaf content).findings path previous inLoop
  | .container head children =>
    (Block.container head children).findings path previous inLoop ++
      errorsFrom path 0 none (head.holdsLoop inLoop) children
  | .item children =>
    (Block.item children).findings path previous inLoop ++ errorsFrom path 0 none inLoop children
  | .list ordered start items =>
    (Block.list ordered start items).findings path previous inLoop ++
      itemErrors path 0 inLoop items

/-- The findings on the children of `parent` from the given index on; `previous` is the kind of the
child before. -/
def errorsFrom (parent : TreePath) (index : Nat) (previous : Option Kind) (inLoop : Bool) :
    List Block → List Finding
  | [] => []
  | block :: rest =>
    errors (parent ++ [index]) previous inLoop block ++
      errorsFrom parent (index + 1) (some block.kind) inLoop rest

/-- The findings on the items of the list at `parent` from the given index on. -/
def itemErrors (parent : TreePath) (index : Nat) (inLoop : Bool) :
    List (List Block) → List Finding
  | [] => []
  | blocks :: rest =>
    errorsFrom (parent ++ [index]) 0 none inLoop blocks ++
      itemErrors parent (index + 1) inLoop rest
end

/-! ## Warnings -/

/-- Where a sequence stands with respect to a certain end. -/
inductive Reach where
  /-- No end so far. -/
  | live
  /-- The block before was the first certain end. -/
  | ended (exit : Exit)
  /-- The first unreachable block has been reported. -/
  | reported
deriving DecidableEq, Repr, Inhabited

/-- The warning on a block that comes next. -/
def Reach.warn (path : TreePath) (kind : Kind) : Reach → List Warning
  | .ended exit => [⟨path, kind, exit⟩]
  | _ => []

/-- How a sequence goes on after a block with the given end. -/
def Reach.after (exit : Option Exit) : Reach → Reach
  | .live => exit.elim .live .ended
  | _ => .reported

mutual
/-- The warnings on everything below a block. -/
def warnings (path : TreePath) : Block → List Warning
  | .leaf _ => []
  | .container _ children => warningsFrom path 0 .live children
  | .item children => warningsFrom path 0 .live children
  | .list _ _ items => itemWarnings path 0 .live items

/-- The warnings on the children of `parent` from the given index on. -/
def warningsFrom (parent : TreePath) (index : Nat) (reach : Reach) : List Block → List Warning
  | [] => []
  | block :: rest =>
    reach.warn (parent ++ [index]) block.kind ++ warnings (parent ++ [index]) block ++
      warningsFrom parent (index + 1) (reach.after block.exit?) rest

def itemWarnings (parent : TreePath) (index : Nat) (reach : Reach) :
    List (List Block) → List Warning
  | [] => []
  | blocks :: rest =>
    reach.warn (parent ++ [index]) .listItem ++
      warningsFrom (parent ++ [index]) 0 .live blocks ++
      itemWarnings parent (index + 1) (reach.after (firstExit? blocks)) rest
end

end Block

namespace Document

/-- Every broken rule, in the order of the walk. -/
def errors (document : Document) : List Finding :=
  Block.errorsFrom [] 0 none false document.children

/-- Every first unreachable block, in the order of the walk. -/
def warnings (document : Document) : List Warning :=
  Block.warningsFrom [] 0 .live document.children

/-- The first broken rule refuses a document. -/
def validate (document : Document) : Except Finding Unit :=
  match document.errors with
  | [] => .ok ()
  | finding :: _ => .error finding

end Document

end Runbook
