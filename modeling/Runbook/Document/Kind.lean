import Runbook.Text.Upper

/-!
# Kinds of nodes

Every node of a document has a kind. The kinds are closed: checking and emission treat each of
them. Their categories only group them for diagnostics.
-/

namespace Runbook

inductive Kind where
  | text | stagedText | bold | italic | inlineCode | link | lineBreak
  | heading | paragraph | list | listItem | codeBlock | blockquote | thematicBreak | table
  | xmlBlock | group | raw | indent | executionReference | step | successCriteria | offerNext
  | agentSpawn | statusBranch | stagedCall | assign | assignGroup
  | conditional | elseBranch | loop | breakLoop | endCommand | askUser
  | document
deriving DecidableEq, Repr, Inhabited

/-- The grouping of kinds. -/
inductive Category where
  /-- Control flow, agents and staging. -/
  | infrastructure
  /-- Structured formatting. -/
  | presentation
  /-- Plain content. -/
  | content
  /-- The root. -/
  | document
deriving DecidableEq, Repr, Inhabited

namespace Category

def all : List Category := [.infrastructure, .presentation, .content, .document]

def name : Category → String
  | .infrastructure => "infrastructure"
  | .presentation => "presentation"
  | .content => "content"
  | .document => "document"

end Category

namespace Kind

def all : List Kind :=
  [.text, .stagedText, .bold, .italic, .inlineCode, .link, .lineBreak, .heading, .paragraph, .list,
    .listItem, .codeBlock, .blockquote, .thematicBreak, .table, .xmlBlock, .group, .raw, .indent,
    .executionReference, .step, .successCriteria, .offerNext, .agentSpawn, .statusBranch,
    .stagedCall, .assign, .assignGroup, .conditional, .elseBranch, .loop, .breakLoop, .endCommand,
    .askUser, .document]

def name : Kind → String
  | .text => "text"
  | .stagedText => "staged-text"
  | .bold => "bold"
  | .italic => "italic"
  | .inlineCode => "inline-code"
  | .link => "link"
  | .lineBreak => "line-break"
  | .heading => "heading"
  | .paragraph => "paragraph"
  | .list => "list"
  | .listItem => "list-item"
  | .codeBlock => "code-block"
  | .blockquote => "blockquote"
  | .thematicBreak => "thematic-break"
  | .table => "table"
  | .xmlBlock => "xml-block"
  | .group => "group"
  | .raw => "raw"
  | .indent => "indent"
  | .executionReference => "execution-reference"
  | .step => "step"
  | .successCriteria => "success-criteria"
  | .offerNext => "offer-next"
  | .agentSpawn => "agent-spawn"
  | .statusBranch => "status-branch"
  | .stagedCall => "staged-call"
  | .assign => "assign"
  | .assignGroup => "assign-group"
  | .conditional => "conditional"
  | .elseBranch => "else-branch"
  | .loop => "loop"
  | .breakLoop => "break"
  | .endCommand => "return"
  | .askUser => "ask-user"
  | .document => "document"

def ofName? (text : String) : Option Kind := all.find? (·.name == text)

def inlines : List Kind := [.text, .stagedText, .bold, .italic, .inlineCode, .link, .lineBreak]

def blocks : List Kind :=
  [.heading, .paragraph, .list, .listItem, .codeBlock, .blockquote, .thematicBreak, .table,
    .xmlBlock, .group, .raw, .indent, .executionReference, .step, .successCriteria, .offerNext,
    .agentSpawn, .statusBranch, .stagedCall, .assign, .assignGroup, .conditional, .elseBranch,
    .loop, .breakLoop, .endCommand, .askUser]

def category : Kind → Category
  | .agentSpawn | .statusBranch | .stagedCall | .assign | .assignGroup | .conditional
  | .elseBranch | .loop | .breakLoop | .endCommand | .askUser => .infrastructure
  | .table | .list | .indent | .executionReference | .successCriteria | .offerNext | .xmlBlock
  | .step => .presentation
  | .document => .document
  | _ => .content

/-- Kinds that need support of their own instead of being plain content. -/
def isPrimitive (kind : Kind) : Bool := kind.category != .content

/-- What a kind could become: formatting blocks could be composed by authors. -/
def migrationTarget? (kind : Kind) : Option String :=
  match kind.category with
  | .presentation => some "composite"
  | _ => none

end Kind

end Runbook
