import Runbook.Document.Block
import Runbook.Schema.Tagged

/-!
# Reading inline nodes
-/

namespace Runbook

namespace Inline

/-- An inline node of a known kind from its fields and its children. -/
def ofRecord (kind : Kind) (record : Record) (children : Read (List Inline)) : Read Inline :=
  match kind with
  | .text => do return .text (← record.required "value" Read.text)
  | .stagedText => do return .staged (← record.required "value" Staged.read)
  | .bold => do return .bold (← children)
  | .italic => do return .italic (← children)
  | .inlineCode => do return .code (← record.required "content" Content.read)
  | .link => do
    let url ← record.required "url" Read.text
    return .link url (← children)
  | .lineBreak => .ok .lineBreak
  | _ => Read.refuse (.unknownKind kind.name (Kind.inlines.map Kind.name))

mutual
def read : Value → Read Inline
  | .mapping entries => do
    let kind ← (Record.ofEntries entries).kindIn Kind.inlines Kind.name
    (ofRecord kind (.ofEntries entries) (readChildren entries)).below kind.name
  | value => Read.noNode (Kind.inlines.map Kind.name) value

/-- The children among the fields. -/
def readChildren : List (Value × Value) → Read (List Inline)
  | [] => .ok []
  | (key, value) :: rest =>
    if key.text? = some "children" then (readList value).below "children" else readChildren rest

/-- A list of inline nodes. No field of a record is one. -/
def readList : Value → Read (List Inline)
  | .list items => readEach 0 items
  | .tuple items => readEach 0 items
  | value => Read.list (Read.noNode (Kind.inlines.map Kind.name)) value

/-- Inline nodes from the given position on. -/
def readEach (index : Nat) : List Value → Read (List Inline)
  | [] => .ok []
  | item :: rest => do
    let first ← (read item).below (toString index)
    let others ← readEach (index + 1) rest
    return first :: others
end

/-- An inline node that has to be of the given kind, if it names one. -/
def readKind (kind : Kind) (typeName : String) : Value → Read Inline
  | .mapping entries => do
    (Record.ofEntries entries).checkKind kind
    ofRecord kind (.ofEntries entries) (readChildren entries)
  | _ => Read.refuse (.notRecord typeName)

end Inline

end Runbook
