import Runbook.Document.Block

/-!
# Positions in a document

A position is the path of child indices that leads to it from the root. The walk lists every
position before those below it, and those below it before the ones to its right.

A block always ends its surroundings if a break or an early end is certain to run inside it. Only
containers that run all their children whenever they run themselves let such an end through: a
branch, a loop body or an agent's instructions may not run.
-/

namespace Runbook

/-- The indices that lead from the root to a node. -/
abbrev TreePath := List Nat

/-- The parts of a path, each after a slash; no parts at all are `/`. -/
def pathText (parts : List String) : String := "/" ++ Text.join "/" parts

/-- A path as `/0/2/1`; the root is `/`. -/
def TreePath.text (path : TreePath) : String := pathText (path.map toString)

/-- A node at a position: the root or a block. -/
inductive Node where
  | root (document : Document)
  | inner (block : Block)
deriving Repr, Inhabited

/-! ## Certain ends -/

/-- How a sequence can be left before its end. -/
inductive Exit where
  | breakLoop
  | endCommand
deriving DecidableEq, Repr, Inhabited

def Exit.name : Exit → String
  | .breakLoop => "break"
  | .endCommand => "return"

def Leaf.exit? : Leaf → Option Exit
  | .breakLoop _ => some .breakLoop
  | .endCommand .. => some .endCommand
  | _ => none

/-- The container runs every child in order whenever it runs itself. -/
def Container.isSequential : Container → Bool
  | .blockquote | .xmlBlock .. | .group | .indent _ | .executionReference .. | .step .. => true
  | _ => false

namespace Block

mutual
/-- The end that is certain once the block runs. -/
def exit? : Block → Option Exit
  | .leaf content => content.exit?
  | .container head children => if head.isSequential then firstExit? children else none
  | .item children => firstExit? children
  | .list _ _ items => firstItemExit? items

/-- The first certain end in a sequence of blocks. -/
def firstExit? : List Block → Option Exit
  | [] => none
  | block :: rest =>
    match exit? block with
    | some found => some found
    | none => firstExit? rest

/-- The first certain end in a sequence of items. -/
def firstItemExit? : List (List Block) → Option Exit
  | [] => none
  | blocks :: rest =>
    match firstExit? blocks with
    | some found => some found
    | none => firstItemExit? rest
end

/-! ## The walk -/

mutual
/-- The positions of a block and of all blocks below it, where `path` is its own. -/
def walk (path : TreePath) : Block → List (TreePath × Block)
  | .leaf content => [(path, .leaf content)]
  | .container head children => (path, .container head children) :: walkFrom path 0 children
  | .item children => (path, .item children) :: walkFrom path 0 children
  | .list ordered start items => (path, .list ordered start items) :: walkItems path 0 items

/-- The positions of the children of `parent` from the given index on. -/
def walkFrom (parent : TreePath) (index : Nat) : List Block → List (TreePath × Block)
  | [] => []
  | block :: rest => walk (parent ++ [index]) block ++ walkFrom parent (index + 1) rest

/-- The positions of the items of the list at `parent` from the given index on. -/
def walkItems (parent : TreePath) (index : Nat) : List (List Block) → List (TreePath × Block)
  | [] => []
  | blocks :: rest =>
    (parent ++ [index], .item blocks) :: walkFrom (parent ++ [index]) 0 blocks ++
      walkItems parent (index + 1) rest
end

end Block

namespace Node

def kind : Node → Kind
  | .root _ => .document
  | .inner block => block.kind

/-- The blocks directly below a node. -/
def children : Node → List Block
  | .root document => document.children
  | .inner block => block.children

/-- The end that is certain once the node runs; a document has none. -/
def exit? : Node → Option Exit
  | .root _ => none
  | .inner block => block.exit?

end Node

namespace Document

def walkBlocks (document : Document) : List (TreePath × Block) :=
  Block.walkFrom [] 0 document.children

/-- The positions of a document, the root first. -/
def walk (document : Document) : List (TreePath × Node) :=
  ([], .root document) ::
    document.walkBlocks.map fun position ↦ (position.1, .inner position.2)

end Document

end Runbook
