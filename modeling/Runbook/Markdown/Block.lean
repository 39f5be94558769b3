import Runbook.Document.Walk
import Runbook.Markdown.Container
import Runbook.Yaml.Layout

/-!
# Markdown of documents

A sequence of blocks is written block by block. If unreachable blocks are left out, it ends with the
first block that is certain to end it. What the blocks of a sequence become is the same everywhere;
only the layout differs: blocks below each other, or an item behind its marker.
-/

namespace Runbook

/-! ## Layouts -/

/-- What an item makes of a block that stands in it. -/
inductive Role where
  /-- Shares the line of the marker, if it comes first. -/
  | paragraph
  /-- Indents itself. -/
  | list
  | other
deriving DecidableEq, Repr, Inhabited

def Block.role : Block → Role
  | .leaf (.paragraph _) => .paragraph
  | .list .. => .list
  | _ => .other

/-- The text of a block and its role. -/
structure Piece where
  role : Role
  text : String
deriving DecidableEq, Repr, Inhabited

namespace Markdown

/-- Blocks below each other; empty ones are left out. -/
def stackPieces (separator : String) (pieces : List Piece) : String :=
  Text.join separator ((pieces.map Piece.text).filter fun text ↦ !text.isEmpty)

/-- The blanks in front of a marker at the given depth. -/
def itemPad (depth : Nat) : String := Text.spaces (2 * (depth - 1))

/-- The text on the line of the marker: that of a paragraph that comes first. -/
def leadText : List Piece → String
  | ⟨.paragraph, text⟩ :: _ => text
  | _ => ""

/-- A block below the line of the marker. -/
def hungPiece (pad : String) (piece : Piece) : List String :=
  match piece.role with
  | .list => [piece.text]
  | _ => if piece.text.isEmpty then [] else [Text.indentLines (pad ++ "  ") piece.text]

/-- The blocks below the line of the marker. -/
def hungPieces (pad : String) : List Piece → List String
  | ⟨.paragraph, _⟩ :: rest => rest.flatMap (hungPiece pad)
  | pieces => pieces.flatMap (hungPiece pad)

/-- An item: the line of its marker and the blocks below it. -/
def itemText (depth : Nat) (mark : String) (pieces : List Piece) : String :=
  let pad := itemPad depth
  Text.join "\n"
    (Text.trimEnd (pad ++ mark ++ " " ++ leadText pieces) :: hungPieces pad pieces)

def itemMark (ordered : Bool) (number : Nat) : String :=
  if ordered then toString number ++ "." else "-"

end Markdown

/-! ## Blocks -/

namespace Block

open Markdown in
mutual
/-- The markdown of a block. -/
def emit (config : Config) (state : EmitState) : Block → Emission String
  | .leaf content => content.emit config state
  | .container head children => do
    let frame ← head.frame config state
    let pieces ← emitSequence config frame.state false children
    frame.finish (stackPieces frame.separator pieces)
  | .item children => do
    let depth := max state.listDepth 1
    let pieces ← emitSequence config { state with listDepth := depth } false children
    return itemText depth "-" pieces
  | .list ordered start items => do
    let depth := state.listDepth + 1
    let texts ← emitItems config { state with listDepth := depth } ordered start items
    return Text.join "\n" texts

/-- The pieces of a sequence of blocks; `afterConditional` says that a conditional comes just
before. -/
def emitSequence (config : Config) (state : EmitState) (afterConditional : Bool) :
    List Block → Emission (List Piece)
  | [] => .done []
  | block :: rest =>
    if block.kind = .elseBranch ∧ afterConditional = false then .fail .danglingElse
    else do
      let text ← emit config state block
      if config.skipUnreachable && block.exit?.isSome then return [⟨block.role, text⟩]
      else
        let others ← emitSequence config state (block.kind == .conditional) rest
        return ⟨block.role, text⟩ :: others

/-- The items of a list, numbered from `number` on. -/
def emitItems (config : Config) (state : EmitState) (ordered : Bool) (number : Nat) :
    List (List Block) → Emission (List String)
  | [] => .done []
  | blocks :: rest => do
    let pieces ← emitSequence config state false blocks
    let text := itemText state.listDepth (itemMark ordered number) pieces
    if config.skipUnreachable && (firstExit? blocks).isSome then return [text]
    else
      let others ← emitItems config state ordered (number + 1) rest
      return text :: others
end

end Block

/-! ## Frontmatter -/

namespace Datum

mutual
/-- Plain data with its staged values replaced by their expressions, and members by their texts. -/
def resolve : Datum → Emission Yaml.Data
  | .null => .done .null
  | .bool b => .done (.bool b)
  | .int n => .done (.int n)
  | .float x => .done (.float x)
  | .text s => .done (.text s)
  | .staged value => do return .text (← Emission.raw value)
  | .member m => .done (.text m.text)
  | .list items => do return .list (← resolveItems items)
  | .tuple items => do return .list (← resolveItems items)
  | .map entries => do return .map (← resolveEntries entries)

/-- The items of a sequence with their staged values replaced. -/
def resolveItems : List Datum → Emission (List Yaml.Data)
  | [] => .done []
  | item :: rest => do
    let first ← resolve item
    let others ← resolveItems rest
    return first :: others

/-- The entries of a mapping with their staged values replaced. -/
def resolveEntries : List (DatumKey × Datum) → Emission (List (String × Yaml.Data))
  | [] => .done []
  | (key, item) :: rest => do
    let first ← resolve item
    let others ← resolveEntries rest
    return (key.name, first) :: others
end

end Datum

/-- Frontmatter with its staged values replaced. -/
def Frontmatter.resolve : Frontmatter → Emission (List (String × Yaml.Data))
  | [] => .done []
  | (name, item) :: rest => do
    let first ← item.resolve
    let others ← resolve rest
    return (name, first) :: others

namespace Markdown

/-- Frontmatter between its marks. All expressions are asked for before anything is written. -/
def emitFrontmatter (data : Frontmatter) : Emission String := do
  let entries ← data.resolve
  if data.isWritable then return "---\n" ++ Text.trimEnd (Yaml.write entries) ++ "\n---"
  else .fail .unwritable

/-- The frontmatter of a document, unless it is empty. -/
def frontmatterParts (frontmatter : Option Frontmatter) : Emission (List String) :=
  match frontmatter.getD [] with
  | [] => .done []
  | data => do return [← emitFrontmatter data]

/-- A text that ends with one line feed, unless it is empty. -/
def closeText (text : String) : String :=
  let body := Text.trimEndLineFeeds text
  if body.isEmpty then "" else body ++ "\n"

end Markdown

namespace Document

open Markdown in
/-- The markdown of a document. -/
def emit (config : Config) (document : Document) : Emission String := do
  let frontmatter ← frontmatterParts document.frontmatter
  let pieces ← Block.emitSequence config {} false document.children
  let body := stackPieces "\n\n" pieces
  return closeText (Text.join "\n\n" (frontmatter ++ if body.isEmpty then [] else [body]))

end Document

end Runbook
