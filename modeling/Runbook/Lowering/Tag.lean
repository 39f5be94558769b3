/-!
# Names of elements

The names that elements may have, sorted by what becomes of them: formatted text, lists and items,
containers of blocks, leaves, and inline nodes. Several names may mean one thing.
-/

namespace Runbook

inductive InlineTag where
  | bold | italic | code | link | lineBreak
deriving DecidableEq, Repr, Inhabited

/-- The inline elements by name. -/
def InlineTag.table : List (String × InlineTag) :=
  [("b", .bold), ("strong", .bold), ("i", .italic), ("em", .italic), ("code", .code), ("a", .link),
    ("br", .lineBreak)]

def InlineTag.ofName? (name : String) : Option InlineTag := table.lookup name

/-- An element that holds blocks. -/
inductive ContainerTag where
  | blockquote | xmlBlock | division | indent | executionContext | step | spawnAgent | onStatus
  | ifTrue | otherwise | loop
deriving DecidableEq, Repr, Inhabited

/-- An element that holds no blocks. -/
inductive LeafTag where
  | codeBlock | rule | table | markdown | successCriteria | offerNext | call | assign | assignGroup
  | breakLoop | endCommand | askUser
deriving DecidableEq, Repr, Inhabited

/-- A block element. -/
inductive Tag where
  | paragraph
  /-- A heading whose level is given by its name or by a prop. -/
  | heading (level : Option Nat)
  | list (ordered : Bool)
  | item
  | container (tag : ContainerTag)
  | leaf (tag : LeafTag)
deriving DecidableEq, Repr, Inhabited

/-- The block elements by name. -/
def Tag.table : List (String × Tag) :=
  [("p", .paragraph), ("Heading", .heading none), ("h1", .heading (some 1)),
    ("h2", .heading (some 2)), ("h3", .heading (some 3)), ("h4", .heading (some 4)),
    ("h5", .heading (some 5)), ("h6", .heading (some 6)), ("ul", .list false), ("ol", .list true),
    ("List", .list false), ("li", .item), ("pre", .leaf .codeBlock),
    ("CodeBlock", .leaf .codeBlock), ("blockquote", .container .blockquote), ("hr", .leaf .rule),
    ("Table", .leaf .table), ("XmlBlock", .container .xmlBlock), ("div", .container .division),
    ("Markdown", .leaf .markdown), ("Indent", .container .indent),
    ("ExecutionContext", .container .executionContext), ("Step", .container .step),
    ("SpawnAgent", .container .spawnAgent), ("OnStatus", .container .onStatus),
    ("If", .container .ifTrue), ("Else", .container .otherwise), ("Loop", .container .loop),
    ("Break", .leaf .breakLoop), ("Return", .leaf .endCommand), ("AskUser", .leaf .askUser),
    ("Call", .leaf .call), ("Assign", .leaf .assign), ("AssignGroup", .leaf .assignGroup),
    ("SuccessCriteria", .leaf .successCriteria), ("OfferNext", .leaf .offerNext)]

/-- The block element with the given name. -/
def Tag.ofName? (name : String) : Option Tag := table.lookup name

/-- The names of elements that are whole documents. -/
def documentNames : List String := ["document", "Command"]

end Runbook
