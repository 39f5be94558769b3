import Runbook.Schema.Entry
import Runbook.Schema.Inline
import Runbook.Text.Identifier
import Runbook.Text.Letter

/-!
# Reading blocks

Every block is read from its own fields first and from its children last. The fields alone make a
leaf or the head of a container, which is how lowering makes blocks from props.
-/

namespace Runbook

/-! ## Leaves -/

namespace Table

def ofRecord (record : Record) : Read Table := do
  let headers ← record.field "headers" none (Read.optional (Read.list Content.read))
  let rows ← record.field "rows" [] (Read.list (Read.list Content.read))
  let align ← record.field "align" none
    (Read.optional (Read.list (Read.member Alignment.all Alignment.name)))
  let emptyCell ← record.field "empty_cell" "" Read.text
  return ⟨headers, rows, align, emptyCell⟩

end Table

namespace Assignment

/-- An environment variable has to have a name, and a command must not be blank. -/
def check (assignment : Assignment) : Read Assignment :=
  match assignment.source with
  | .env =>
    if Text.isIdentifier assignment.content then .ok assignment
    else Read.refuse (.badEnvironmentName assignment.content)
  | .bash =>
    if Text.isBlankText assignment.content then Read.refuse .blankCommand else .ok assignment
  | .value => .ok assignment

def ofRecord (record : Record) : Read Assignment := do
  let variableName ← record.requiredAny "variable"
  let source ← record.field "source" .bash (Read.member AssignSource.all AssignSource.name)
  let content ← record.required "content" Read.text
  let comment ← record.text? "comment"
  check ⟨variableName, source, content, comment⟩

/-- An assignment inside a group. -/
def read : Value → Read Assignment
  | .mapping entries => do
    (Record.ofEntries entries).checkKind .assign
    ofRecord (.ofEntries entries)
  | _ => Read.refuse (.notRecord "AssignNode")

end Assignment

namespace Question

def ofRecord (record : Record) : Read Question := do
  let question ← record.required "question" Content.read
  let options ← record.field "options" [] (Read.list Choice.read)
  let output ← record.requiredAny "output"
  let header ← record.text? "header"
  let multiSelect ← record.field "multi_select" false Read.bool
  return ⟨question, options, output, header, multiSelect⟩

end Question

namespace Leaf

def readLevel (record : Record) : Read Nat := record.required "level" (Read.natural 1 (some 6))

def readMessage (record : Record) : Read (Option Content) :=
  record.field "message" none (Read.optional Content.read)

/-- A leaf of a known kind from its fields and, for formatted text, its inline children. -/
def ofRecord (kind : Kind) (record : Record) (children : Read (List Inline)) : Read Leaf :=
  match kind with
  | .heading => do
    let level ← readLevel record
    return .heading level (← children)
  | .paragraph => do return .paragraph (← children)
  | .codeBlock => do
    let language ← record.text? "language"
    let content ← record.field "content" (.text "") Content.read
    return .codeBlock language content
  | .thematicBreak => .ok .thematicBreak
  | .table => do return .table (← Table.ofRecord record)
  | .raw => do return .raw (← record.required "content" Read.text)
  | .successCriteria => do
    return .successCriteria (← record.field "items" [] (Read.list Criterion.read))
  | .offerNext => do return .offerNext (← record.field "routes" [] (Read.list Route.read))
  | .stagedCall => do
    let function ← record.required "function" Read.text
    let output ← record.requiredAny "output"
    return .stagedCall ⟨function, record.any "args" (.mapping []), output⟩
  | .assign => do return .assign (← Assignment.ofRecord record)
  | .assignGroup => do
    return .assignGroup (← record.required "assignments" (Read.listOfLength 1 Assignment.read))
  | .breakLoop => do return .breakLoop (← readMessage record)
  | .endCommand => do
    let status ← record.field "status" none
      (Read.optional (Read.member Status.all Status.name))
    return .endCommand status (← readMessage record)
  | .askUser => do return .askUser (← Question.ofRecord record)
  | _ => Read.refuse (.unknownKind kind.name (Kind.blocks.map Kind.name))

end Leaf

/-! ## Containers -/

/-- A name that a tag may have: it starts with a letter or an underscore and holds no blank and no
character of markup. -/
def isTagName (name : String) : Bool :=
  match name.toList with
  | [] => false
  | c :: _ =>
    (Text.isLetter c || c == '_') &&
      name.toList.all fun d ↦ !(Text.isBlank d || d == '<' || d == '>' || d == '/')

def readTagName (value : Value) : Read String := do
  let name ← Read.text value
  if isTagName name then return name else Read.refuse (.badTagName name)

/-- The number of a step, which may be given as an integer. -/
def readStepNumber : Value → Read String
  | .int n => .ok (toString n)
  | value => Read.text value

namespace Container

/-- The head of a container of a known kind from its fields. -/
def ofRecord (kind : Kind) (record : Record) : Read Container :=
  match kind with
  | .blockquote => .ok .blockquote
  | .xmlBlock => do
    let name ← record.required "name" readTagName
    let attributes ← record.field "attributes" [] (Read.mapping Content.read)
    return .xmlBlock name attributes
  | .group => .ok .group
  | .indent => do return .indent (← record.field "spaces" 2 (Read.natural 0 none))
  | .executionReference => do
    let paths ← record.field "paths" [] (Read.list Read.text)
    let marker ← record.field "prefix" "@" Read.text
    return .executionReference paths marker
  | .step => do
    let number ← record.required "number" readStepNumber
    let name ← record.required "name" Read.text
    let layout ← record.field "variant" .heading (Read.member StepLayout.all StepLayout.name)
    return .step number name layout
  | .agentSpawn => do
    let agent ← record.required "agent" Read.text
    let model ← record.required "model" Read.text
    let description ← record.required "description" Read.text
    let prompt ← record.field "prompt" none (Read.optional Content.read)
    let loadFromFile ← record.text? "load_from_file"
    return .agentSpawn
      ⟨agent, model, description, prompt, record.any "input" .null, record.any "output" .null,
        loadFromFile⟩
  | .statusBranch => do
    let output ← record.requiredAny "output"
    let status ← record.required "status" (Read.member Status.all Status.name)
    return .statusBranch output status
  | .conditional => do return .conditional (← record.requiredAny "condition")
  | .elseBranch => .ok .elseBranch
  | .loop => do
    let bound ← record.requiredAny "bound"
    return .loop bound (record.any "counter" .null)
  | _ => Read.refuse (.unknownKind kind.name (Kind.blocks.map Kind.name))

end Container

/-! ## Blocks -/

namespace Kind

def isContainer : Kind → Bool
  | .blockquote | .xmlBlock | .group | .indent | .executionReference | .step | .agentSpawn
  | .statusBranch | .conditional | .elseBranch | .loop => true
  | _ => false

end Kind

namespace Block

/-- Whether a list is ordered and where it starts. -/
def readListHead (record : Record) : Read (Bool × Nat) := do
  let ordered ← record.field "ordered" false Read.bool
  let start ← record.field "start" 1 (Read.natural 0 none)
  return (ordered, start)

/-- A block of a known kind from its fields and what it holds. -/
def ofRecord (kind : Kind) (record : Record) (inlines : Read (List Inline))
    (blocks : Read (List Block)) (items : Read (List (List Block))) : Read Block :=
  match kind with
  | .list => do
    let (ordered, start) ← readListHead record
    return .list ordered start (← items)
  | .listItem => do return .item (← blocks)
  | _ =>
    if kind.isContainer then do
      let head ← Container.ofRecord kind record
      return .container head (← blocks)
    else do return .leaf (← Leaf.ofRecord kind record inlines)

mutual
def read : Value → Read Block
  | .mapping entries => do
    let kind ← (Record.ofEntries entries).kindIn Kind.blocks Kind.name
    (ofRecord kind (.ofEntries entries) (Inline.readChildren entries) (readChildren entries)
      (readItems entries)).below kind.name
  | value => Read.noNode (Kind.blocks.map Kind.name) value

/-- The children among the fields. -/
def readChildren : List (Value × Value) → Read (List Block)
  | [] => .ok []
  | (key, value) :: rest =>
    if key.text? = some "children" then (readList value).below "children" else readChildren rest

/-- The items among the fields. -/
def readItems : List (Value × Value) → Read (List (List Block))
  | [] => .ok []
  | (key, value) :: rest =>
    if key.text? = some "items" then (readItemList value).below "items" else readItems rest

/-- A list of blocks. No field of a record is one. -/
def readList : Value → Read (List Block)
  | .list values => readEach 0 values
  | .tuple values => readEach 0 values
  | value => Read.list (Read.noNode (Kind.blocks.map Kind.name)) value

def readEach (index : Nat) : List Value → Read (List Block)
  | [] => .ok []
  | value :: rest => do
    let first ← (read value).below (toString index)
    let others ← readEach (index + 1) rest
    return first :: others

/-- A list of items. No field of a record is one. -/
def readItemList : Value → Read (List (List Block))
  | .list values => readEachItem 0 values
  | .tuple values => readEachItem 0 values
  | value => Read.list (fun _ ↦ Read.refuse (.notRecord "ListItemNode")) value

def readEachItem (index : Nat) : List Value → Read (List (List Block))
  | [] => .ok []
  | value :: rest => do
    let first ← (readItem value).below (toString index)
    let others ← readEachItem (index + 1) rest
    return first :: others

def readItem : Value → Read (List Block)
  | .mapping entries => do
    (Record.ofEntries entries).checkKind .listItem
    readChildren entries
  | _ => Read.refuse (.notRecord "ListItemNode")
end

/-- A block that has to be of the given kind, if it names one. -/
def readKind (kind : Kind) (typeName : String) : Value → Read Block
  | .mapping entries => do
    (Record.ofEntries entries).checkKind kind
    ofRecord kind (.ofEntries entries) (Inline.readChildren entries) (readChildren entries)
      (readItems entries)
  | _ => Read.refuse (.notRecord typeName)

end Block

/-! ## Documents -/

/-- The name under which frontmatter stands in a document. -/
def frontmatterField : String := "frontmatter"

/-- Frontmatter: a mapping of plain data whose keys are texts. -/
def Datum.readFrontmatter (value : Value) : Read Frontmatter := do
  let entries ← Read.mapping (.ok ·) value
  match Datum.ofFields frontmatterField entries with
  | .ok data => return data
  | .error fault => Read.refuse (.notPlain fault)

namespace Document

/-- A document from its fields and its children. -/
def ofRecord (record : Record) (children : Read (List Block)) : Read Document := do
  let frontmatter ← record.field frontmatterField none (Read.optional Datum.readFrontmatter)
  return ⟨frontmatter, ← children⟩

def read : Value → Read Document
  | .mapping entries => do
    (Record.ofEntries entries).checkKind .document
    ofRecord (.ofEntries entries) (Block.readChildren entries)
  | _ => Read.refuse (.notRecord "DocumentNode")

end Document

end Runbook
