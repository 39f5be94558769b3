import Runbook.Document.Walk
import Runbook.Value.Literal

/-!
# Findings

A finding says which rule of control flow a node breaks and where the node stands. A report is its
wording: a message and, for most rules, what was expected and what was there instead.
-/

namespace Runbook

/-! ## Reports -/

/-- A rule on the structure of a document. -/
inductive Rule where
  | structural
  | danglingElse
  | breakOutsideLoop
  | invalidOptionCount
  | typeMismatch
deriving DecidableEq, Repr, Inhabited

def Rule.name : Rule → String
  | .structural => "structural"
  | .danglingElse => "dangling_else"
  | .breakOutsideLoop => "break_outside_loop"
  | .invalidOptionCount => "invalid_option_count"
  | .typeMismatch => "type_mismatch"

/-- The wording of a broken rule. -/
structure Report where
  rule : Rule
  message : String
  path : TreePath := []
  kind : Option String := none
  expected : Option String := none
  actual : Option String := none
deriving DecidableEq, Repr, Inhabited

/-- The line that reports a broken rule: where, what, and what was expected instead of what was
found. -/
def Rule.line (rule : Rule) (place message : String) (expected : Option String) (actual : String) :
    String :=
  rule.name ++ " at " ++ place ++ ": " ++ message ++
    match expected with
    | none => ""
    | some shape => " (expected " ++ shape ++ ", got " ++ actual ++ ")"

def Report.text (report : Report) : String :=
  report.rule.line report.path.text report.message report.expected (report.actual.getD "None")

/-! ## Violations -/

/-- How a node breaks a rule. -/
inductive Violation where
  /-- An else-branch whose previous sibling, if there is one, is no conditional. -/
  | danglingElse (previous : Option Kind)
  | breakOutsideLoop
  | optionCount (count : Nat)
  | badBound (value : Value)
  /-- A slot of a node of kind `holder`, which may be an assignment inside a group. -/
  | badVariable (holder : Kind) (slot : String) (value : Value)
  | badStatusOutput (value : Value)
  | badCondition (value : Value)
deriving Repr, Inhabited

/-- The description of a value that was found in a slot. -/
def Value.shapeName : Value → String
  | .staged value => "staged value " ++ value.describe
  | .null => "nothing"
  | .bool b => "bool " ++ literalBool b
  | .int n => "int " ++ toString n
  | .float x => "float " ++ x.literal
  | .text s => "string " ++ Text.quoted s
  | .member m => "string " ++ m.literal
  | value => value.typeName

/-- The fewest options of a question. -/
def minOptions : Nat := 2

/-- The most options of a question. -/
def maxOptions : Nat := 4

namespace Violation

def rule : Violation → Rule
  | .danglingElse _ => .danglingElse
  | .breakOutsideLoop => .breakOutsideLoop
  | .optionCount _ => .invalidOptionCount
  | _ => .typeMismatch

/-- The kind of the node that breaks the rule, in a block of the given kind. -/
def kindIn (kind : Kind) : Violation → Kind
  | .badVariable holder _ _ => holder
  | _ => kind

def message : Violation → String
  | .danglingElse _ => "else-branch must immediately follow a conditional"
  | .breakOutsideLoop => "break has no enclosing loop in this execution context"
  | .optionCount count => "ask-user offers " ++ toString count ++ " options"
  | .badBound _ => "loop bound must be a non-negative integer or staged value"
  | .badVariable holder slot _ => holder.name ++ " " ++ slot ++ " must name an external variable"
  | .badStatusOutput _ => "status-branch must read an agent's captured output"
  | .badCondition _ => "conditional needs a decidable condition"

def expected? : Violation → Option String
  | .danglingElse _ => some "conditional before else-branch"
  | .breakOutsideLoop => none
  | .optionCount _ => some (toString minOptions ++ "-" ++ toString maxOptions ++ " options")
  | .badBound _ => some "non-negative int or staged value"
  | .badVariable .. => some "root staged value or identifier"
  | .badStatusOutput _ => some "staged value"
  | .badCondition _ => some "bool, staged value or condition"

def actual? : Violation → Option String
  | .danglingElse previous => some (previous.elim "start of sequence" Kind.name)
  | .breakOutsideLoop => none
  | .optionCount count => some (toString count)
  | .badBound value | .badVariable _ _ value | .badStatusOutput value | .badCondition value =>
    some value.shapeName

end Violation

structure Finding where
  path : TreePath
  kind : Kind
  violation : Violation
deriving Repr, Inhabited

def Finding.report (finding : Finding) : Report where
  rule := finding.violation.rule
  message := finding.violation.message
  path := finding.path
  kind := some finding.kind.name
  expected := finding.violation.expected?
  actual := finding.violation.actual?

/-! ## Warnings -/

/-- A block that is never reached, because the sequence is certain to end before it. -/
structure Warning where
  path : TreePath
  kind : Kind
  exit : Exit
deriving DecidableEq, Repr, Inhabited

namespace Warning

/-- The name of the rule that warns. -/
def rule : String := "unreachable"

def message (warning : Warning) : String :=
  warning.kind.name ++ " follows a " ++ warning.exit.name ++ " and is never reached"

def text (warning : Warning) : String :=
  rule ++ " at " ++ warning.path.text ++ ": " ++ warning.message

end Warning

end Runbook
