import Runbook.Lowering.Props

/-!
# Lowering

Lowering turns a tree of elements into a document. Elements with the name of a block become blocks.
Between them, whatever is inline is gathered into paragraphs; blank text between blocks leaves no
trace.
-/

namespace Runbook

/-! ## Children -/

/-- What a child of a block is. -/
inductive ChildRole where
  /-- Leaves no trace. -/
  | skipped
  | block
  /-- Blank text, which does not start a paragraph. -/
  | blank
  | inline
deriving DecidableEq, Repr, Inhabited

def Value.childRole : Value → ChildRole
  | .null | .bool _ => .skipped
  | .element name _ _ => if (InlineTag.ofName? name).isSome then .inline else .block
  | value => if value.isBlank then .blank else .inline

def Inline.isBlank : Inline → Bool
  | .text s => Text.isBlankText s
  | _ => false

/-- The paragraph that gathered inline nodes make; blank ones make none. -/
def gathered (run : List Inline) : List Block :=
  if run.all Inline.isBlank then [] else [.leaf (.paragraph run)]

/-- A child that stands alone: a block, or what its inline node makes. -/
def aloneBlocks (child : Value) (block : Lower Block) (inline : Lower Inline) :
    Lower (List Block) :=
  match child.childRole with
  | .skipped | .blank => pure []
  | .block => do return [← block]
  | .inline => do return gathered [← inline]

/-- The inline node that a text or a number is. -/
def inlineScalar? : Value → Option Inline
  | .staged value => some (.staged value)
  | value => value.plainText?.map .text

def characterItems (s : String) : List (List Block) :=
  s.toList.map fun c ↦
    if Text.isBlank c then [] else [.leaf (.paragraph [.text (String.singleton c)])]

/-- Refuses something that stands at a path. -/
def refuseAt {α : Type} (path : TreePath) (element : Option String) (problem : LowerProblem) :
    Lower α :=
  throw (.located path element problem)

/-! ## Elements -/

mutual
def lowerInline (path : TreePath) : Value → Lower Inline
  | .element name props children =>
    let site : Site := ⟨path, name, props, children⟩
    match InlineTag.ofName? name with
    | some .bold => do return .bold (← lowerInlines path 0 children)
    | some .italic => do return .italic (← lowerInlines path 0 children)
    | some .code => do return .code (← site.text)
    | some .link => do
      let target ← site.require "href" []
      let nodes ← lowerInlines path 0 children
      site.made (Inline.ofRecord .link (.ofList [("url", target)]) (.ok nodes))
    | some .lineBreak => pure .lineBreak
    | none =>
      refuseAt path (some name)
        (if (Tag.ofName? name).isSome then .blockInsideInline else .unknownElement)
  | value =>
    match inlineScalar? value with
    | some node => pure node
    | none => refuseAt path none (.unsupportedChild value.typeName)

/-- The inline nodes that children are, from the given index on. -/
def lowerInlines (parent : TreePath) (index : Nat) : List Value → Lower (List Inline)
  | [] => pure []
  | child :: rest => do
    if child.isSkipped then lowerInlines parent (index + 1) rest
    else
      let first ← lowerInline (parent ++ [index]) child
      let others ← lowerInlines parent (index + 1) rest
      return first :: others

/-- The block that an element is. -/
def lowerBlock (registry : Registry) (path : TreePath) : Value → Lower Block
  | .element name props children =>
    let site : Site := ⟨path, name, props, children⟩
    match Tag.ofName? name with
    | none => refuseAt path (some name) .unknownElement
    | some .paragraph => do return .leaf (.paragraph (← lowerInlines path 0 children))
    | some (.heading level) => do
      let nodes ← lowerInlines path 0 children
      let given : Value := level.elim (site.propD ["level"] (.int 2)) fun n ↦ .int n
      return .leaf (← site.made (Leaf.ofRecord .heading (.ofList [("level", given)]) (.ok nodes)))
    | some (.list ordered) => do
      let listedItems ← lowerItemsProp registry path props
      let childItems ← lowerListChildren registry site 0 children
      let isOrdered := ordered || (site.prop ["ordered"]).truthy
      let (_, start) ← site.made (Block.readListHead
        (.ofList [("ordered", .bool isOrdered), ("start", site.propD ["start"] (.int 1))]))
      return .list isOrdered start (listedItems ++ childItems)
    | some .item => do return .item (← lowerBlocks registry path 0 [] children)
    | some (.container tag) => do
      let draft ← draftContainer tag site
      let blocks ← lowerBlocks registry path 0 [] children
      return .container (← checkDraft site draft) blocks
    | some (.leaf tag) => do return .leaf (← lowerLeaf registry tag site)
  | value => refuseAt path none (.unsupportedChild value.typeName)

/-- The blocks that children are, from the given index on; `run` are the inline nodes gathered just
before. -/
def lowerBlocks (registry : Registry) (parent : TreePath) (index : Nat) (run : List Inline) :
    List Value → Lower (List Block)
  | [] => pure (gathered run)
  | child :: rest =>
    match child.childRole with
    | .skipped => lowerBlocks registry parent (index + 1) run rest
    | .block => do
      let block ← lowerBlock registry (parent ++ [index]) child
      let others ← lowerBlocks registry parent (index + 1) [] rest
      return gathered run ++ block :: others
    | .blank | .inline => do
      if child.isBlank && run.isEmpty then lowerBlocks registry parent (index + 1) run rest
      else
        let node ← lowerInline (parent ++ [index]) child
        lowerBlocks registry parent (index + 1) (run ++ [node]) rest

def lowerItemsProp (registry : Registry) (path : TreePath) :
    List (String × Value) → Lower (List (List Block))
  | [] => pure []
  | (name, value) :: rest =>
    if name = "items" then lowerItems registry path value else lowerItemsProp registry path rest

def lowerItems (registry : Registry) (path : TreePath) : Value → Lower (List (List Block))
  | .list items => lowerEach registry path 0 items
  | .tuple items => lowerEach registry path 0 items
  | .mapping entries => lowerKeys registry path 0 entries
  | .text s => pure (characterItems s)
  | .member m => pure (characterItems m.text)
  | value => do
    match ← listed value with
    | [] => pure []
    | field :: _ => refuseAt (path ++ [0, 0]) none (.unsupportedChild field.typeName)

/-- The items that values are, each by itself, from the given index on. -/
def lowerEach (registry : Registry) (path : TreePath) (index : Nat) :
    List Value → Lower (List (List Block))
  | [] => pure []
  | item :: rest => do
    let first ← aloneBlocks item (lowerBlock registry (path ++ [index, 0]) item)
      (lowerInline (path ++ [index, 0]) item)
    let others ← lowerEach registry path (index + 1) rest
    return first :: others

/-- The items that the keys of a mapping are, from the given index on. -/
def lowerKeys (registry : Registry) (path : TreePath) (index : Nat) :
    List (Value × Value) → Lower (List (List Block))
  | [] => pure []
  | (key, _) :: rest => do
    let first ← aloneBlocks key (lowerBlock registry (path ++ [index, 0]) key)
      (lowerInline (path ++ [index, 0]) key)
    let others ← lowerKeys registry path (index + 1) rest
    return first :: others

/-- The items that the children of a list are, from the given index on. -/
def lowerListChildren (registry : Registry) (site : Site) (index : Nat) :
    List Value → Lower (List (List Block))
  | [] => pure []
  | .element name _ children :: rest => do
    if name = "li" then
      let first ← lowerBlocks registry (site.path ++ [index]) 0 [] children
      let others ← lowerListChildren registry site (index + 1) rest
      return first :: others
    else throw (.located (site.path ++ [index]) (some site.name) .notListItem)
  | child :: rest =>
    if child.isSkipped || child.isBlank then lowerListChildren registry site (index + 1) rest
    else throw (.located (site.path ++ [index]) (some site.name) .notListItem)
end

/-! ## Documents -/

/-- The frontmatter that the props of a document give: those of the frontmatter prop, and then all
others. -/
def frontmatterValue (props : List (String × Value)) : Except LowerError Value :=
  let given := (props.lookup frontmatterField).getD .null
  let entries := if given.truthy then given.pairs else .ok []
  match entries with
  | .error error => .error (.notMapping error)
  | .ok pairs =>
    let others := props.filter fun entry ↦ entry.1 != frontmatterField
    let all := Value.setKeys (Value.setKeys [] pairs)
      (others.map fun entry ↦ (.text entry.1, entry.2))
    .ok (if all.isEmpty then .null else .mapping all)

/-- The document that an element is. -/
def lowerDocument (registry : Registry) (name : String) (props : List (String × Value))
    (children : List Value) : Lower Document := do
  let site : Site := ⟨[], name, props, children⟩
  let frontmatter ← frontmatterValue props
  let blocks ← lowerBlocks registry [] 0 [] children
  site.made (Document.ofRecord (.ofList [(frontmatterField, frontmatter)]) (.ok blocks))

/-- The document that a tree is. A tree whose root is no document is the only block of one. -/
def lowerTree (registry : Registry) : Value → Lower Document
  | .element name props children =>
    if documentNames.contains name then lowerDocument registry name props children
    else do
      let root : Value := .element name props children
      let blocks ← aloneBlocks root (lowerBlock registry [0] root) (lowerInline [0] root)
      return { children := blocks }
  | .route route => namedRoot route.name "OfferNextRoute"
  | .handle handle => namedRoot handle.name "StagedFunction"
  | _ => throw .notElement
where
  /-- Something else that has a name is no element either, and is refused where it stands. -/
  namedRoot (name typeName : String) : Lower Document :=
    if documentNames.contains name then throw .notElement
    else refuseAt [0] none (.unsupportedChild typeName)

end Runbook
