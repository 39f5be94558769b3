import Runbook.Document.Entry
import Runbook.Document.Frontmatter
import Runbook.Document.Kind
import Runbook.Document.Option
import Runbook.Value.Basic

/-!
# Documents

A document is a sequence of blocks below optional frontmatter. A block is a leaf, which holds no
other blocks, or one of the blocks that do: a container runs its children in order, a list holds
items, and an item may also stand outside a list. A list's items are sequences of blocks, so nothing
but items can stand in a list.

Slots that name a variable, a condition or a bound hold any value: a document with a mis-shaped slot
is a document, and the control-flow check reports it with its place.
-/

namespace Runbook

/-! ## Inline nodes -/

/-- Formatted text. -/
inductive Inline where
  | text (value : String)
  | staged (value : Staged)
  | bold (children : List Inline)
  | italic (children : List Inline)
  | code (content : Content)
  | link (url : String) (children : List Inline)
  | lineBreak
deriving Repr, Inhabited

def Inline.kind : Inline → Kind
  | .text _ => .text
  | .staged _ => .stagedText
  | .bold _ => .bold
  | .italic _ => .italic
  | .code _ => .inlineCode
  | .link .. => .link
  | .lineBreak => .lineBreak

/-! ## Leaves -/

/-- A table of cells. Rows may be shorter than the table is wide. -/
structure Table where
  headers : Option (List Content) := none
  rows : List (List Content) := []
  align : Option (List Alignment) := none
  emptyCell : String := ""
deriving Repr, Inhabited

/-- The width of a table: that of its widest row, headers and alignments included. -/
def Table.columnCount (table : Table) : Nat :=
  let widths := table.rows.map List.length ++
    [(table.headers.getD []).length, (table.align.getD []).length]
  widths.foldl max 0

structure StagedCall where
  function : String
  args : Value := .mapping []
  output : Value
deriving Repr, Inhabited

/-- A shell variable that is filled when the runbook is executed. The content is a command, a
literal or the name of an environment variable, as the source says. -/
structure Assignment where
  variableName : Value
  source : AssignSource := .bash
  content : String
  comment : Option String := none
deriving Repr, Inhabited

structure Question where
  question : Content
  options : List Choice := []
  output : Value
  header : Option String := none
  multiSelect : Bool := false
deriving Repr, Inhabited

/-- A block that holds no other blocks. -/
inductive Leaf where
  | heading (level : Nat) (children : List Inline)
  | paragraph (children : List Inline)
  | codeBlock (language : Option String) (content : Content)
  | thematicBreak
  | table (table : Table)
  /-- Markdown that is passed through. -/
  | raw (content : String)
  | successCriteria (items : List Criterion)
  | offerNext (routes : List Route)
  | stagedCall (call : StagedCall)
  | assign (assignment : Assignment)
  /-- Several assignments in one shell block. -/
  | assignGroup (assignments : List Assignment)
  | breakLoop (message : Option Content)
  /-- The command ends early. -/
  | endCommand (status : Option Status) (message : Option Content)
  | askUser (question : Question)
deriving Repr, Inhabited

/-! ## Containers -/

/-- Work that is delegated to an agent. The agent runs in its own context. The prompt is given, or
it is made from the input. -/
structure Spawn where
  agent : String
  model : String
  description : String
  prompt : Option Content := none
  input : Value := .null
  output : Value := .null
  loadFromFile : Option String := none
deriving Repr, Inhabited

/-- What a container is, apart from its children. -/
inductive Container where
  | blockquote
  | xmlBlock (name : String) (attributes : List (String × Content))
  /-- The children are joined by single line breaks. -/
  | group
  | indent (spaces : Nat)
  /-- Files that the executor should load, each marked at its start. -/
  | executionReference (paths : List String) (marker : String)
  | step (number name : String) (layout : StepLayout)
  | agentSpawn (spawn : Spawn)
  /-- The children are for the case that the agent's result has this status. -/
  | statusBranch (output : Value) (status : Status)
  | conditional (condition : Value)
  | elseBranch
  | loop (bound counter : Value)
deriving Repr, Inhabited

/-! ## Blocks -/

inductive Block where
  | leaf (leaf : Leaf)
  | container (head : Container) (children : List Block)
  | item (children : List Block)
  | list (ordered : Bool) (start : Nat) (items : List (List Block))
deriving Repr, Inhabited

def Leaf.kind : Leaf → Kind
  | .heading .. => .heading
  | .paragraph _ => .paragraph
  | .codeBlock .. => .codeBlock
  | .thematicBreak => .thematicBreak
  | .table _ => .table
  | .raw _ => .raw
  | .successCriteria _ => .successCriteria
  | .offerNext _ => .offerNext
  | .stagedCall _ => .stagedCall
  | .assign _ => .assign
  | .assignGroup _ => .assignGroup
  | .breakLoop _ => .breakLoop
  | .endCommand .. => .endCommand
  | .askUser _ => .askUser

def Container.kind : Container → Kind
  | .blockquote => .blockquote
  | .xmlBlock .. => .xmlBlock
  | .group => .group
  | .indent _ => .indent
  | .executionReference .. => .executionReference
  | .step .. => .step
  | .agentSpawn _ => .agentSpawn
  | .statusBranch .. => .statusBranch
  | .conditional _ => .conditional
  | .elseBranch => .elseBranch
  | .loop .. => .loop

namespace Block

def kind : Block → Kind
  | .leaf content => content.kind
  | .container head _ => head.kind
  | .item _ => .listItem
  | .list .. => .list

/-- The blocks directly below a block. -/
def children : Block → List Block
  | .leaf _ => []
  | .container _ children => children
  | .item children => children
  | .list _ _ items => items.map .item

end Block

/-- The root of a tree of blocks. -/
structure Document where
  frontmatter : Option Frontmatter := none
  children : List Block := []
deriving Repr, Inhabited

end Runbook
