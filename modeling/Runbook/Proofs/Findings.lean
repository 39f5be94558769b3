import Runbook.Check.ControlFlow
import Runbook.Proofs.Position

/-!
# What the control-flow check reports

The check threads the previous sibling, a flag for loops and an index path through one traversal.
The rules themselves know nothing of a traversal: each speaks of one node, its own slots, the
sibling before it and the nodes around it. Here the rules are written down in that form and the
report is shown to be exactly what they find, node by node in the order of the walk.

A rule on a slot is a demand: a property of the value in the slot, and the violation to be reported
if the value lacks it.
-/

namespace Runbook

/-! ## Shapes of slots -/

namespace Value

/-- A root staged value or an identifier. -/
def NamesVariable (value : Value) : Prop :=
  (∃ staged, value = .staged staged ∧ staged.path = []) ∨
    ∃ name, value.text? = some name ∧ Text.isIdentifier name = true

/-- A staged value or a number that is not negative. -/
def IsBound (value : Value) : Prop :=
  (∃ staged, value = .staged staged) ∨ ∃ number, value = .int number ∧ 0 ≤ number

/-- A staged value. -/
def IsStaged (value : Value) : Prop := ∃ staged, value = .staged staged

/-- A truth value, a staged value or a condition. -/
def IsDecidable (value : Value) : Prop :=
  (∃ truth, value = .bool truth) ∨ (∃ staged, value = .staged staged) ∨
    ∃ condition, value = .condition condition

private theorem isSome_variableName?_iff (value : Value) :
    value.variableName?.isSome = true ↔ value.NamesVariable := by
  cases value with
  | staged staged =>
    by_cases h : staged.isRoot = true <;>
      simp_all [variableName?, NamesVariable, text?, Staged.isRoot]
  | text name =>
    by_cases h : Text.isIdentifier name = true <;> simp_all [variableName?, NamesVariable, text?]
  | member m =>
    by_cases h : Text.isIdentifier m.text = true <;> simp_all [variableName?, NamesVariable, text?]
  | _ => simp [variableName?, NamesVariable, text?]

private theorem isSome_bound?_iff (value : Value) : value.bound?.isSome = true ↔ value.IsBound := by
  cases value with
  | int number => by_cases h : 0 ≤ number <;> simp_all [bound?, IsBound]
  | _ => simp [bound?, IsBound]

private theorem isSome_staged?_iff (value : Value) :
    value.staged?.isSome = true ↔ value.IsStaged := by
  cases value <;> simp [staged?, IsStaged]

private theorem isSome_ofValue?_iff (value : Value) :
    (Condition.ofValue? value).isSome = true ↔ value.IsDecidable := by
  cases value <;> simp [Condition.ofValue?, IsDecidable]

instance : DecidablePred NamesVariable := fun value ↦
  decidable_of_iff _ value.isSome_variableName?_iff

instance : DecidablePred IsBound := fun value ↦ decidable_of_iff _ value.isSome_bound?_iff

instance : DecidablePred IsStaged := fun value ↦ decidable_of_iff _ value.isSome_staged?_iff

instance : DecidablePred IsDecidable := fun value ↦ decidable_of_iff _ value.isSome_ofValue?_iff

end Value

/-! ## Demands on slots -/

/-- What a rule demands of a slot, and what it reports otherwise. -/
structure Demand where
  met : Prop
  violation : Violation
  [decidable : Decidable met]

attribute [instance] Demand.decidable

namespace Demand

def violations (demand : Demand) : List Violation :=
  if demand.met then [] else [demand.violation]

/-- The slot has to name a variable. -/
def naming (holder : Kind) (slot : String) (value : Value) : Demand :=
  ⟨value.NamesVariable, .badVariable holder slot value⟩

/-- The slot has to name a variable if it is filled. -/
def mayName (holder : Kind) (slot : String) (value : Value) : Demand :=
  ⟨value.isNull = true ∨ value.NamesVariable, .badVariable holder slot value⟩

end Demand

/-- What the rules demand of the slots of a block, in the order in which they are reported. -/
def Block.demands : Block → List Demand
  | .container (.loop bound counter) _ =>
    [⟨bound.IsBound, .badBound bound⟩, .mayName .loop "counter" counter]
  | .container (.agentSpawn spawn) _ =>
    [.mayName .agentSpawn "output" spawn.output]
  | .container (.statusBranch output _) _ => [⟨output.IsStaged, .badStatusOutput output⟩]
  | .container (.conditional condition) _ => [⟨condition.IsDecidable, .badCondition condition⟩]
  | .leaf (.askUser question) =>
    [⟨2 ≤ question.options.length ∧ question.options.length ≤ 4,
        .optionCount question.options.length⟩,
      .naming .askUser "output" question.output]
  | .leaf (.stagedCall call) => [.naming .stagedCall "output" call.output]
  | .leaf (.assign assignment) => [.naming .assign "variable" assignment.variableName]
  | .leaf (.assignGroup assignments) =>
    assignments.map fun assignment ↦ .naming .assign "variable" assignment.variableName
  | _ => []

/-! ## Rules of single nodes -/

namespace Document

variable (document : Document)

/-- An else-branch has to follow a conditional. -/
def elseViolations (path : TreePath) (block : Block) : List Violation :=
  let previous := (document.previous? path).map Block.kind
  if block.kind = .elseBranch ∧ previous ≠ some .conditional then [.danglingElse previous] else []

/-- A break has to be in a loop of its own context. -/
def breakViolations (path : TreePath) (block : Block) : List Violation :=
  if block.kind = .breakLoop ∧ ¬HeldByLoop (document.ancestors path) then [.breakOutsideLoop]
  else []

/-- What is wrong with a block itself. -/
def violationsAt (path : TreePath) (block : Block) : List Violation :=
  document.elseViolations path block ++ block.demands.flatMap Demand.violations ++
    document.breakViolations path block

/-- What is wrong with a node itself, with its path. No rule is about the root. -/
def findingsAt : TreePath × Node → List Finding
  | (_, .root _) => []
  | (path, .inner block) =>
    (document.violationsAt path block).map fun violation ↦
      ⟨path, violation.kindIn block.kind, violation⟩

end Document

/-! ## The rules of the check are these rules -/

/-- A test reports what a demand does if it decides the same property. -/
theorem Demand.ite_eq_violations (demand : Demand) {test : Prop} [Decidable test]
    (h : test ↔ demand.met) :
    (if test then [] else [demand.violation]) = demand.violations := by
  rw [violations]
  by_cases htest : test
  · rw [if_pos htest, if_pos (h.mp htest)]
  · rw [if_neg htest, if_neg fun hmet ↦ htest (h.mpr hmet)]

private theorem checkVariable_eq (holder : Kind) (slot : String) (value : Value) :
    checkVariable holder slot value = (Demand.naming holder slot value).violations :=
  (Demand.naming holder slot value).ite_eq_violations value.isSome_variableName?_iff

private theorem checkOptionalVariable_eq (holder : Kind) (slot : String) (value : Value) :
    checkOptionalVariable holder slot value = (Demand.mayName holder slot value).violations := by
  rw [checkOptionalVariable]
  by_cases hnull : value.isNull = true
  · rw [if_pos hnull, Demand.violations, if_pos (.inl hnull)]
  · rw [if_neg hnull]
    have hmet : value.variableName?.isSome = true ↔ value.isNull = true ∨ value.NamesVariable := by
      rw [value.isSome_variableName?_iff, or_iff_right hnull]
    exact (Demand.mayName holder slot value).ite_eq_violations hmet

theorem Leaf.violations_eq (content : Leaf) :
    content.violations = (Block.leaf content).demands.flatMap Demand.violations := by
  cases content with
  | stagedCall call =>
    rw [violations, checkVariable_eq, Block.demands, List.flatMap_singleton]
  | assign assignment =>
    rw [violations, checkVariable_eq, Block.demands, List.flatMap_singleton]
  | assignGroup assignments =>
    simp only [violations, checkVariable_eq, Block.demands, List.flatMap_map]
  | askUser question =>
    rw [violations, checkVariable_eq, Block.demands, List.flatMap_cons, List.flatMap_singleton,
      ← Demand.ite_eq_violations _ Iff.rfl]
    rfl
  | _ => rfl

theorem Container.violations_eq (head : Container) (children : List Block) :
    head.violations = (Block.container head children).demands.flatMap Demand.violations := by
  cases head with
  | loop bound counter =>
    have hbound := Demand.ite_eq_violations ⟨bound.IsBound, .badBound bound⟩
      bound.isSome_bound?_iff
    rw [violations, checkOptionalVariable_eq, Block.demands, List.flatMap_cons,
      List.flatMap_singleton, hbound]
  | agentSpawn spawn =>
    rw [violations, checkOptionalVariable_eq, Block.demands, List.flatMap_singleton]
  | statusBranch output status =>
    rw [violations, Block.demands, List.flatMap_singleton,
      ← Demand.ite_eq_violations _ output.isSome_staged?_iff]
  | conditional condition =>
    rw [violations, Block.demands, List.flatMap_singleton,
      ← Demand.ite_eq_violations _ condition.isSome_ofValue?_iff]
  | _ => rfl

private theorem Block.slotViolations_eq (block : Block) :
    block.slotViolations = block.demands.flatMap Demand.violations := by
  cases block with
  | leaf content => exact content.violations_eq
  | container head children => exact head.violations_eq children
  | item children => rfl
  | list ordered start items => rfl

namespace Block

variable {document : Document}

/-- A block is reported for what is wrong with it, if the check brings along what surrounds it. -/
theorem findings_eq_findingsAt (document : Document) (path : TreePath) (block : Block) :
    block.findings path ((document.previous? path).map kind)
        (heldByLoop (document.ancestors path)) =
      document.findingsAt (path, .inner block) := by
  have hbreak : block.breakViolations (heldByLoop (document.ancestors path)) =
      document.breakViolations path block := by
    simp only [breakViolations, Document.breakViolations, ← heldByLoop_iff, Bool.not_eq_true]
  rw [findings, Document.findingsAt, violations, Document.violationsAt, slotViolations_eq, hbreak,
    elseViolations, Document.elseViolations]

private theorem heldByLoop_append_container (ancestors : List Node) (head : Container)
    (children : List Block) :
    heldByLoop (ancestors ++ [.inner (.container head children)]) =
      head.holdsLoop (heldByLoop ancestors) := by
  rw [heldByLoop_concat]
  cases head <;> rfl

private theorem heldByLoop_append_item (ancestors : List Node) (children : List Block) :
    heldByLoop (ancestors ++ [.inner (.item children)]) = heldByLoop ancestors := by
  rw [heldByLoop_concat]
  rfl

private theorem heldByLoop_append_list (ancestors : List Node) (ordered : Bool) (start : Nat)
    (items : List (List Block)) :
    heldByLoop (ancestors ++ [.inner (.list ordered start items)]) = heldByLoop ancestors := by
  rw [heldByLoop_concat]
  rfl

-- The check and the walk recurse alike. The invariant is what the check has brought to a position:
-- the kind of the sibling before it and whether the nodes around it hold a loop. Children of a node
-- are split into those `before` the current one and the rest, so that an index is a length.
mutual
theorem errors_eq_flatMap_walk (path : TreePath) (block : Block)
    (hat : document.at? path = some (.inner block)) :
    errors path ((document.previous? path).map kind) (heldByLoop (document.ancestors path)) block =
      (walk path block).flatMap fun position ↦
        document.findingsAt (position.1, .inner position.2) := by
  have hself := findings_eq_findingsAt document path block
  match block with
  | .leaf content => rw [errors, walk, List.flatMap_singleton, hself]
  | .container head children =>
    rw [errors, walk, List.flatMap_cons, hself, ← heldByLoop_append_container _ head children]
    exact congrArg _ (errorsFrom_eq_flatMap_walk path _ [] children hat rfl)
  | .item children =>
    rw [errors, walk, List.flatMap_cons, hself]
    nth_rewrite 1 [← heldByLoop_append_item _ children]
    exact congrArg _ (errorsFrom_eq_flatMap_walk path _ [] children hat rfl)
  | .list ordered start items =>
    rw [errors, walk, List.flatMap_cons, hself]
    nth_rewrite 1 [← heldByLoop_append_list _ ordered start items]
    exact congrArg _ (itemErrors_eq_flatMap_walk path _ [] items hat rfl)

theorem errorsFrom_eq_flatMap_walk (parent : TreePath) (node : Node) (before blocks : List Block)
    (hat : document.at? parent = some node) (hchildren : node.children = before ++ blocks) :
    errorsFrom parent before.length (before.getLast?.map kind)
        (heldByLoop (document.ancestors parent ++ [node])) blocks =
      (walkFrom parent before.length blocks).flatMap fun position ↦
        document.findingsAt (position.1, .inner position.2) := by
  match blocks with
  | [] => rw [errorsFrom, walkFrom, List.flatMap_nil]
  | block :: rest =>
    have hblock := errors_eq_flatMap_walk (parent ++ [before.length]) block
      (Document.at?_child hat hchildren)
    rw [Document.previous?_child hat hchildren, Document.ancestors_child hat] at hblock
    have hrest := errorsFrom_eq_flatMap_walk parent node (before ++ [block]) rest hat
      (by rw [hchildren, List.append_assoc, List.singleton_append])
    rw [List.length_append, List.length_singleton, List.getLast?_concat] at hrest
    rw [errorsFrom, walkFrom, List.flatMap_append, hblock, ← hrest]
    rfl

theorem itemErrors_eq_flatMap_walk (parent : TreePath) (node : Node) (before : List Block)
    (items : List (List Block)) (hat : document.at? parent = some node)
    (hchildren : node.children = before ++ items.map .item) :
    itemErrors parent before.length (heldByLoop (document.ancestors parent ++ [node])) items =
      (walkItems parent before.length items).flatMap fun position ↦
        document.findingsAt (position.1, .inner position.2) := by
  match items with
  | [] => rw [itemErrors, walkItems, List.flatMap_nil]
  | blocks :: rest =>
    have hitem := Document.at?_child hat (hchildren.trans (by rw [List.map_cons]))
    have hblocks := errorsFrom_eq_flatMap_walk (parent ++ [before.length]) (.inner (.item blocks))
      [] blocks hitem rfl
    rw [heldByLoop_append_item, Document.ancestors_child hat] at hblocks
    have hrest := itemErrors_eq_flatMap_walk parent node (before ++ [.item blocks]) rest hat
      (by rw [hchildren, List.map_cons, List.append_assoc, List.singleton_append])
    rw [List.length_append, List.length_singleton] at hrest
    rw [itemErrors, walkItems, List.flatMap_append, List.flatMap_cons, ← hrest]
    -- No rule is about an item itself.
    exact congrArg (· ++ _) hblocks
end

end Block

/-- **The exact report.** The check reports, node by node in the order of the walk, exactly what is
wrong with each node itself, and a document is refused for the first of it. -/
theorem Document.errors_eq_findingsAt_walk (document : Document) :
    document.errors = document.walk.flatMap document.findingsAt ∧
      document.validate =
        match (document.walk.flatMap document.findingsAt).head? with
        | none => .ok ()
        | some finding => .error finding := by
  have herrors : document.errors = document.walk.flatMap document.findingsAt := by
    have hroot : document.at? [] = some (.root document) := rfl
    have hchildren := Block.errorsFrom_eq_flatMap_walk [] (.root document) [] document.children
      hroot rfl
    rw [walk, List.flatMap_cons, List.flatMap_map, walkBlocks]
    exact hchildren
  refine ⟨herrors, ?_⟩
  rw [validate, ← herrors]
  cases document.errors <;> rfl

end Runbook
