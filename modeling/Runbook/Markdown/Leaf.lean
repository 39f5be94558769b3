import Runbook.Config
import Runbook.Document.Slot
import Runbook.Markdown.Escape
import Runbook.Markdown.Inline
import Runbook.Markdown.Splice
import Runbook.Text.Blank

/-!
# Markdown of leaves

Leaves are written by fixed templates. Commands of the shell and assignments stand in fenced blocks
for the executor to run.
-/

namespace Runbook

/-- What surrounds a block while it is written. -/
structure EmitState where
  /-- Added to the level of every heading. -/
  headingOffset : Nat := 0
  /-- How many lists surround the block. -/
  listDepth : Nat := 0
deriving DecidableEq, Repr, Inhabited

namespace Markdown

def maxHeadingLevel : Nat := 6

def headingMarks (state : EmitState) (level : Nat) : String :=
  String.ofList (List.replicate (min (level + state.headingOffset) maxHeadingLevel) '#')

def variableIn (slot : String) (value : Value) : Emission String :=
  match value.variableName? with
  | some name => .done name
  | none => .fail (.notVariable slot value)

/-- The texts of content slots. -/
def contents : List Content → Emission (List String)
  | [] => .done []
  | content :: rest => do
    let first ← Emission.content content
    let others ← contents rest
    return first :: others

/-! ## Tables -/

/-- Texts between pipes. -/
def pipeRow (cells : List String) : String := "| " ++ Text.join " | " cells ++ " |"

/-- `items` with as many copies of `filler` as it lacks. -/
def padTo {α : Type} (width : Nat) (filler : α) (items : List α) : List α :=
  items ++ List.replicate (width - items.length) filler

/-- A row of cells, filled up to the width of the table. -/
def tableRow (width : Nat) (emptyCell : String) (cells : List Content) : Emission String := do
  return pipeRow (padTo width emptyCell ((← contents cells).map escapeCell))

def tableRows (width : Nat) (emptyCell : String) : List (List Content) → Emission (List String)
  | [] => .done []
  | cells :: rest => do
    let first ← tableRow width emptyCell cells
    let others ← tableRows width emptyCell rest
    return first :: others

/-- The mark of a column below the headers. -/
def separatorMark : Option Alignment → String
  | none => "---"
  | some .left => ":---"
  | some .center => ":---:"
  | some .right => "---:"

/-- The row below the headers. -/
def separatorRow (width : Nat) (align : List Alignment) : String :=
  pipeRow ((padTo width none (align.map some)).map separatorMark)

def headerRows (width : Nat) (table : Table) : Emission (List String) :=
  match table.headers.getD [] with
  | [] => .done []
  | headers => tableRows width table.emptyCell [headers]

/-- A pipe table. Without columns it is nothing at all. -/
def emitTable (table : Table) : Emission String :=
  let width := table.columnCount
  if width = 0 then .done ""
  else do
    let headers ← headerRows width table
    let rows ← tableRows width table.emptyCell table.rows
    return Text.join "\n" (headers ++ separatorRow width (table.align.getD []) :: rows)

/-! ## Shell blocks -/

def shellBlock (lines : List String) : String := "```bash\n" ++ Text.join "\n" lines ++ "\n```"

/-- Characters that need no quotes on the right of an assignment. -/
def isWordChar (c : Char) : Bool :=
  c.isAlphanum || ['_', '.', '/', ':', '@', '%', '+', ',', '=', '-'].contains c

/-- A literal on the right of an assignment. -/
def shellLiteral (content : String) : String :=
  if !content.isEmpty && content.toList.all isWordChar then content else shellQuote content

def assignedText (source : AssignSource) (content : String) : String :=
  match source with
  | .bash => "$(" ++ Text.trim content ++ ")"
  | .env => "$" ++ content
  | .value => shellLiteral content

/-- The lines of an assignment: a comment, if there is one, and the assignment. -/
def assignmentLines (assignment : Assignment) : Emission (List String) := do
  let name ← variableIn "assign variable" assignment.variableName
  let line := name ++ "=" ++ assignedText assignment.source assignment.content
  let comment := assignment.comment.getD ""
  return if comment.isEmpty then [line] else ["# " ++ comment, line]

def assignmentsLines : List Assignment → Emission (List String)
  | [] => .done []
  | assignment :: rest => do
    let first ← assignmentLines assignment
    let others ← assignmentsLines rest
    return first ++ others

/-- A command that calls a staged function and keeps its result. -/
def emitStagedCall (config : Config) (call : StagedCall) : Emission String := do
  let output ← variableIn "staged-call output" call.output
  let argument ← match call.args with
    | .staged value => do pure ("\"" ++ (← Emission.json value) ++ "\"")
    | args => shellJson args
  return shellBlock
    [output ++ "=$(" ++ config.runtimeCommand ++ " " ++ config.runtimeModule ++ " " ++
      call.function ++ " " ++ argument ++ ")"]

/-! ## Listings -/

def criterionLine (criterion : Criterion) : Emission String := do
  return "- [" ++ (if criterion.checked then "x" else " ") ++ "] " ++
    (← Emission.content criterion.text)

def criterionLines : List Criterion → Emission (List String)
  | [] => .done []
  | criterion :: rest => do
    let first ← criterionLine criterion
    let others ← criterionLines rest
    return first :: others

/-- A description after its separator, if it is not empty. -/
def described (separator : String) (description : Option String) : String :=
  let text := description.getD ""
  if text.isEmpty then "" else separator ++ text

def routeLines (route : Route) : List String :=
  ["- **" ++ route.name ++ "**" ++ described ": " route.description, "  `" ++ route.path ++ "`"]

def choiceLine (choice : Choice) : String :=
  "  - \"" ++ escapeQuotes choice.label ++ "\" (value: \"" ++ escapeQuotes choice.value ++ "\")" ++
    described " - " choice.description

/-- The instruction to ask the user. -/
def emitQuestion (question : Question) : Emission String := do
  let output ← variableIn "ask-user output" question.output
  let text ← Emission.content question.question
  let header := question.header.getD ""
  return Text.join "\n" (
    ["Use the AskUserQuestion tool:", "", "- Question: \"" ++ escapeQuotes text ++ "\""] ++
    (if header.isEmpty then [] else ["- Header: \"" ++ escapeQuotes header ++ "\""]) ++
    "- Options:" :: question.options.map choiceLine ++
    (if question.multiSelect then ["- Multiple selections allowed"] else []) ++
    ["", "Store the user's response in `$" ++ output ++ "`."])

/-! ## Ends -/

/-- A bold label, with a message after it if there is one. -/
def labelled (label : String) (message : Option Content) : Emission String :=
  match message with
  | none => .done ("**" ++ label ++ "**")
  | some content => do return "**" ++ label ++ ":** " ++ (← Emission.content content)

def endLabel : Option Status → String
  | none => "End command"
  | some status => "End command (" ++ status.name ++ ")"

end Markdown

namespace Leaf

open Markdown in
/-- The markdown of a leaf. -/
def emit (config : Config) (state : EmitState) : Leaf → Emission String
  | .heading level children => do
    return headingMarks state level ++ " " ++ (← Inline.emitAll children)
  | .paragraph children => Inline.emitAll children
  | .codeBlock language content => do
    let text ← Emission.content content
    return fence text ++ language.getD "" ++ "\n" ++ text ++ "\n" ++ fence text
  | .thematicBreak => .done "---"
  | .table grid => emitTable grid
  | .raw content => .done (Text.trimLineFeeds content)
  | .successCriteria items => do
    return Text.join "\n" ("<success_criteria>" :: (← criterionLines items) ++
      ["</success_criteria>"])
  | .offerNext routes =>
    .done (Text.join "\n" ("<offer_next>" :: routes.flatMap routeLines ++ ["</offer_next>"]))
  | .stagedCall call => emitStagedCall config call
  | .assign assignment => do return shellBlock (← assignmentLines assignment)
  | .assignGroup assignments => do return shellBlock (← assignmentsLines assignments)
  | .breakLoop message => labelled "Break loop" message
  | .endCommand status message => labelled (endLabel status) message
  | .askUser question => emitQuestion question

end Leaf

end Runbook
