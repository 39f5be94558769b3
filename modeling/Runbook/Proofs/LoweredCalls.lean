import Mathlib.Data.List.Forall2
import Runbook.Proofs.LoweringInduction
import Runbook.Proofs.Registration

/-!
# Calls in a tree and in its document

A call can stand wherever a block can: below a document, in containers nested to any depth, in the
items of a list, and in the items that a prop of a list holds. `Value.treeCalls` reads off a tree
what its calls are to, and `Document.stagedCalls` reads the staged calls off a document.

Lowering turns the first list into the second, one by one and in the same order
(`resolves_of_lowerTree`). Each call is then to a function of the registry, which the tree gave
itself or by its name.
-/

namespace Runbook

theorem exists_mem_of_forall₂ {α β : Type} {related : α → β → Prop} {firsts : List α}
    {seconds : List β} (h : List.Forall₂ related firsts seconds) {first : α}
    (hfirst : first ∈ firsts) : ∃ second ∈ seconds, related first second := by
  induction h with
  | nil => exact absurd hfirst List.not_mem_nil
  | cons hrelated _ ih =>
    rcases List.mem_cons.mp hfirst with rfl | hmem
    · exact ⟨_, List.mem_cons_self, hrelated⟩
    · obtain ⟨second, hsecond, hholds⟩ := ih hmem
      exact ⟨second, List.mem_cons_of_mem _ hsecond, hholds⟩

/-! ## Calls in a document -/

def Block.stagedCall? : Block → Option StagedCall
  | .leaf (.stagedCall call) => some call
  | _ => none

private theorem Block.stagedCall?_eq_none_of_kind {content : Leaf}
    (h : content.kind ≠ .stagedCall) :
    (Block.leaf content).stagedCall? = none := by
  cases content with
  | stagedCall call => exact absurd rfl h
  | _ => rfl

private theorem Block.eq_of_stagedCall? {block : Block} {call : StagedCall}
    (h : block.stagedCall? = some call) : block = .leaf (.stagedCall call) := by
  rw [stagedCall?.eq_def] at h
  split at h
  · cases h
    rfl
  · cases h

/-- The staged calls among blocks that are listed with their positions. -/
def callsAt (positions : List (TreePath × Block)) : List StagedCall :=
  positions.filterMap fun position ↦ position.2.stagedCall?

private theorem callsAt_append (front back : List (TreePath × Block)) :
    callsAt (front ++ back) = callsAt front ++ callsAt back :=
  List.filterMap_append

private theorem callsAt_cons_of_none {path : TreePath} {block : Block}
    (h : block.stagedCall? = none) (rest : List (TreePath × Block)) :
    callsAt ((path, block) :: rest) = callsAt rest :=
  List.filterMap_cons_none h

/-- The staged calls of a document, from the first to the last. -/
def Document.stagedCalls (document : Document) : List StagedCall := callsAt document.walkBlocks

theorem Document.mem_stagedCalls_iff {document : Document} {call : StagedCall} :
    call ∈ document.stagedCalls ↔
      ∃ path, (path, .inner (.leaf (.stagedCall call))) ∈ document.walk := by
  rw [stagedCalls, callsAt, List.mem_filterMap]
  constructor
  · rintro ⟨⟨path, block⟩, hmem, hcall⟩
    obtain rfl : block = .leaf (.stagedCall call) := Block.eq_of_stagedCall? hcall
    exact ⟨path, List.mem_cons_of_mem _ (List.mem_map_of_mem hmem)⟩
  · rintro ⟨path, hmem⟩
    rcases List.mem_cons.mp hmem with hroot | hmem
    · cases hroot
    · obtain ⟨position, hposition, heq⟩ := List.mem_map.mp hmem
      obtain ⟨path, block⟩ := position
      cases heq
      exact ⟨_, hposition, rfl⟩

theorem Block.walkFrom_append (parent : TreePath) (index : Nat) (front back : List Block) :
    walkFrom parent index (front ++ back) =
      walkFrom parent index front ++ walkFrom parent (index + front.length) back := by
  induction front generalizing index with
  | nil => rfl
  | cons block rest ih =>
    rw [List.cons_append, walkFrom, walkFrom, ih, List.append_assoc, List.length_cons,
      Nat.add_right_comm, Nat.add_assoc]

theorem Block.walkItems_append (parent : TreePath) (index : Nat) (front back : List (List Block)) :
    walkItems parent index (front ++ back) =
      walkItems parent index front ++ walkItems parent (index + front.length) back := by
  induction front generalizing index with
  | nil => rfl
  | cons blocks rest ih =>
    rw [List.cons_append, walkItems, walkItems, ih, List.append_assoc, List.length_cons,
      Nat.add_right_comm, Nat.add_assoc]

private theorem callsAt_walkItems_cons (parent : TreePath) (index : Nat) (blocks : List Block)
    (rest : List (List Block)) :
    callsAt (Block.walkItems parent index (blocks :: rest)) =
      callsAt (Block.walkFrom (parent ++ [index]) 0 blocks) ++
        callsAt (Block.walkItems parent (index + 1) rest) := by
  rw [Block.walkItems, List.cons_append, callsAt_cons_of_none rfl, callsAt_append]

private theorem callsAt_gathered (parent : TreePath) (index : Nat) (run : List Inline) :
    callsAt (Block.walkFrom parent index (gathered run)) = [] := by
  rw [gathered]
  split
  · rfl
  · rfl

/-! ## Calls in a tree -/

namespace Value

mutual
/-- What the calls inside an element are to, from the first to the last. -/
def calls : Value → List Value
  | .element name props children =>
    match Tag.ofName? name with
    | some (.list _) => itemsPropCalls props ++ callsIn children
    | some .item => callsIn children
    | some (.container _) => callsIn children
    | some (.leaf .call) => (prop? props ["fn", "function"]).toList
    | _ => []
  | _ => []

/-- What the calls inside children are to. -/
def callsIn : List Value → List Value
  | [] => []
  | child :: rest => calls child ++ callsIn rest

/-- What the calls inside the items that props give are to. -/
def itemsPropCalls : List (String × Value) → List Value
  | [] => []
  | (name, value) :: rest => if name = "items" then itemCalls value else itemsPropCalls rest

/-- What the calls inside the items that a value lists are to. -/
def itemCalls : Value → List Value
  | .list items => callsIn items
  | .tuple items => callsIn items
  | .mapping entries => keyCalls entries
  | _ => []

/-- What the calls inside the keys of a mapping are to. -/
def keyCalls : List (Value × Value) → List Value
  | [] => []
  | (key, _) :: rest => calls key ++ keyCalls rest
end

def treeCalls : Value → List Value
  | .element name props children =>
    if documentNames.contains name then callsIn children
    else calls (.element name props children)
  | _ => []

def functionName? : Value → Option String
  | .text name => some name
  | .member m => some m.text
  | _ => none

private theorem callsIn_cons_of_noElement {value : Value} (h : value.NoElement)
    (rest : List Value) :
    callsIn (value :: rest) = callsIn rest := by
  rw [callsIn]
  cases value with
  | element name props children => exact absurd rfl (h name props children)
  | _ => simp only [calls, List.nil_append]

private theorem callsIn_of_noElement {values : List Value} (h : ∀ value ∈ values, value.NoElement) :
    callsIn values = [] := by
  induction values with
  | nil => rw [callsIn]
  | cons value rest ih =>
    obtain ⟨hvalue, hrest⟩ := List.forall_mem_cons.mp h
    rw [callsIn_cons_of_noElement hvalue, ih hrest]

private theorem keyCalls_eq (entries : List (Value × Value)) :
    keyCalls entries = callsIn (entries.map Prod.fst) := by
  induction entries with
  | nil => rw [keyCalls, List.map_nil, callsIn]
  | cons entry rest ih => rw [keyCalls, List.map_cons, callsIn, ih]

private theorem itemCalls_eq {value : Value} {values : List Value} (h : listed value = .ok values) :
    itemCalls value = callsIn values := by
  cases value with
  | list items | tuple items =>
    rw [listed_of_elements? rfl (by simp [truthy])] at h
    rw [itemCalls, Except.ok.inj h]
  | mapping entries =>
    rw [listed_of_elements? rfl (by simp [truthy])] at h
    rw [itemCalls, keyCalls_eq, Except.ok.inj h]
  | _ =>
    rw [callsIn_of_noElement (noElement_of_listed rfl h)]
    simp only [itemCalls]

private theorem itemsPropCalls_eq {props : List (String × Value)} {values : List Value}
    (h : itemsProp props = .ok values) : itemsPropCalls props = callsIn values := by
  induction props with
  | nil => rw [itemsPropCalls, ← Except.ok.inj h, callsIn]
  | cons entry rest ih =>
    obtain ⟨name, value⟩ := entry
    rw [itemsPropCalls]
    split
    · next hname =>
      subst hname
      rw [itemsProp_cons_self] at h
      exact itemCalls_eq h
    · next hname =>
      rw [itemsProp_cons_of_ne hname] at h
      exact ih h

end Value

/-- No name means both an inline element and a block. -/
theorem Tag.ofName?_of_inline {name : String} (h : (InlineTag.ofName? name).isSome = true) :
    Tag.ofName? name = none := by
  obtain ⟨tag, htag⟩ := Option.isSome_iff_exists.mp h
  obtain ⟨before, after, htable, -⟩ := List.lookup_eq_some_iff.mp htag
  have hmem : (name, tag) ∈ InlineTag.table := by
    rw [htable]
    exact List.mem_append_right _ (List.mem_cons_self ..)
  have hall : ∀ entry ∈ InlineTag.table, Tag.ofName? entry.1 = none := by decide
  exact hall _ hmem

/-- What is no block holds no calls. -/
theorem Value.calls_of_childRole {child : Value} (h : child.childRole ≠ .block) :
    child.calls = [] := by
  cases child with
  | element name props children =>
    rw [childRole] at h
    split at h
    · next hinline => rw [calls, Tag.ofName?_of_inline hinline]
    · exact absurd rfl h
  | _ => simp only [calls]

/-! ## Leaves -/

/-- The kind of the leaf that an element becomes. -/
def LeafTag.kind : LeafTag → Kind
  | .codeBlock => .codeBlock
  | .rule => .thematicBreak
  | .table => .table
  | .markdown => .raw
  | .successCriteria => .successCriteria
  | .offerNext => .offerNext
  | .call => .stagedCall
  | .assign => .assign
  | .assignGroup => .assignGroup
  | .breakLoop => .breakLoop
  | .endCommand => .endCommand
  | .askUser => .askUser

/-- What is read as a leaf of a kind is of that kind. -/
theorem Leaf.kind_of_ofRecord {kind : Kind} {record : Record} {children : Read (List Inline)}
    {content : Leaf} (h : ofRecord kind record children = .ok content) : content.kind = kind := by
  cases kind with
  | heading | codeBlock | stagedCall | endCommand =>
    obtain ⟨first, -, h⟩ := bind_eq_ok_iff.mp h
    obtain ⟨second, -, h⟩ := bind_eq_ok_iff.mp h
    cases h
    rfl
  | paragraph | table | raw | successCriteria | offerNext | assign | assignGroup | breakLoop
  | askUser =>
    obtain ⟨read, -, h⟩ := bind_eq_ok_iff.mp h
    cases h
    rfl
  | thematicBreak =>
    cases h
    rfl
  | _ => cases h

theorem Site.eq_ok_of_made {α : Type} {site : Site} {read : Read α} {value : α}
    (h : site.made read = .ok value) : read = .ok value := by
  cases read with
  | error fault => cases h
  | ok read =>
    cases h
    rfl

theorem Site.kind_of_made {site : Site} {kind : Kind} {record : Record}
    {children : Read (List Inline)} {content : Leaf}
    (h : site.made (Leaf.ofRecord kind record children) = .ok content) : content.kind = kind :=
  Leaf.kind_of_ofRecord (eq_ok_of_made h)

/-- A call becomes a staged call of the function that it is to. -/
theorem of_callLeaf {registry : Registry} {site : Site} {content : Leaf}
    (h : (callLeaf registry site).Returns content) :
    ∃ handle output, calledFunction registry site = .ok handle ∧
      content = .stagedCall ⟨handle.name, site.propD ["args"] (.mapping []), output⟩ := by
  obtain ⟨handle, hhandle, h⟩ := h.of_bind
  dsimp only at h
  split at h
  all_goals
    obtain ⟨output, -, h⟩ := h.of_bind
    exact ⟨handle, output, hhandle.eq_ok_of_lift, h.eq_of_pure.symm⟩

theorem kind_of_lowerLeaf {registry : Registry} {tag : LeafTag} {site : Site} {content : Leaf}
    (h : (lowerLeaf registry tag site).Returns content) : content.kind = tag.kind := by
  cases tag with
  | codeBlock =>
    obtain ⟨fields, -, h⟩ := bind_eq_ok_iff.mp h.eq_ok_of_lift
    exact Site.kind_of_made h
  | rule => rw [← h.eq_of_pure]; rfl
  | table =>
    obtain ⟨headers, -, h⟩ := bind_eq_ok_iff.mp h.eq_ok_of_lift
    obtain ⟨listed, -, h⟩ := bind_eq_ok_iff.mp h
    obtain ⟨rows, -, h⟩ := bind_eq_ok_iff.mp h
    exact Site.kind_of_made h
  | markdown =>
    have h := h.eq_ok_of_lift
    rw [markdownLeaf] at h
    dsimp only at h
    split at h
    all_goals
      obtain ⟨given, -, h⟩ := bind_eq_ok_iff.mp h
      split at h
      · cases h
        rfl
      · cases h
  | successCriteria =>
    obtain ⟨items, -, h⟩ := bind_eq_ok_iff.mp h.eq_ok_of_lift
    obtain ⟨criteria, -, h⟩ := bind_eq_ok_iff.mp h
    cases h
    rfl
  | offerNext =>
    obtain ⟨items, -, h⟩ := bind_eq_ok_iff.mp h.eq_ok_of_lift
    obtain ⟨routes, -, h⟩ := bind_eq_ok_iff.mp h
    cases h
    rfl
  | call =>
    obtain ⟨handle, output, -, rfl⟩ := of_callLeaf h
    rfl
  | assign =>
    obtain ⟨assignment, -, h⟩ := h.of_bind
    rw [← h.eq_of_pure]
    rfl
  | assignGroup =>
    obtain ⟨assignments, -, h⟩ := bind_eq_ok_iff.mp h.eq_ok_of_lift
    split at h
    · cases h
    · cases h
      rfl
  | breakLoop | endCommand =>
    obtain ⟨message, -, h⟩ := h.of_bind
    exact Site.kind_of_made h.eq_ok_of_lift
  | askUser =>
    obtain ⟨options, -, h⟩ := bind_eq_ok_iff.mp h.eq_ok_of_lift
    obtain ⟨choices, -, h⟩ := bind_eq_ok_iff.mp h
    obtain ⟨question, -, h⟩ := bind_eq_ok_iff.mp h
    obtain ⟨output, -, h⟩ := bind_eq_ok_iff.mp h
    exact Site.kind_of_made h

/-! ## The function of a call -/

namespace Registry

variable {registry : Registry}

/-- The call is to a function of the registry, which the value is or names. -/
def Resolves (registry : Registry) (callee : Value) (call : StagedCall) : Prop :=
  ∃ handle ∈ registry.functions, call.function = handle.name ∧
    (callee = .handle handle ∨ callee.functionName? = some handle.name)

private theorem mem_of_holds {handle : Handle} (h : registry.holds handle = true) :
    handle ∈ registry.functions :=
  List.mem_of_find?_eq_some (beq_iff_eq.mp h)

private theorem of_get?_eq_some {handle : Handle} {name : String}
    (h : registry.get? name = some handle) :
    handle ∈ registry.functions ∧ handle.name = name :=
  ⟨List.mem_of_find?_eq_some h, by simpa using List.find?_some h⟩

private theorem Resolves.mem_of_handle {handle : Handle} {call : StagedCall}
    (h : registry.Resolves (.handle handle) call) : handle ∈ registry.functions := by
  obtain ⟨found, hmem, -, hsame | hname⟩ := h
  · rwa [Value.handle.inj hsame]
  · cases hname

end Registry

private theorem of_functionNamed {registry : Registry} {site : Site} {name shown : String}
    {handle : Handle} (h : functionNamed registry site name shown = .ok handle) :
    handle ∈ registry.functions ∧ handle.name = name := by
  rw [functionNamed] at h
  split at h
  · next found hfound =>
    cases h
    exact Registry.of_get?_eq_some hfound
  · cases h

/-- The function of a call is one of the registry, which the prop is or names. -/
theorem of_calledFunction {registry : Registry} {site : Site} {handle : Handle}
    (h : calledFunction registry site = .ok handle) :
    handle ∈ registry.functions ∧ ∃ callee, prop? site.props ["fn", "function"] = some callee ∧
      (callee = .handle handle ∨ callee.functionName? = some handle.name) := by
  obtain ⟨callee, hcallee, h⟩ := bind_eq_ok_iff.mp h
  have hprop : prop? site.props ["fn", "function"] = some callee := by
    rw [Site.require] at hcallee
    split at hcallee
    · next hprop => rw [hprop, Except.ok.inj hcallee]
    · cases hcallee
  split at h
  · split at h
    · next hholds =>
      cases h
      exact ⟨Registry.mem_of_holds hholds, _, hprop, .inl rfl⟩
    · cases h
  · obtain ⟨hmem, hname⟩ := of_functionNamed h
    exact ⟨hmem, _, hprop, .inr (congrArg some hname.symm)⟩
  · obtain ⟨hmem, hname⟩ := of_functionNamed h
    exact ⟨hmem, _, hprop, .inr (congrArg some hname.symm)⟩
  · cases h

private theorem resolves_of_callLeaf {registry : Registry} {site : Site} {content : Leaf}
    (h : (callLeaf registry site).Returns content) :
    List.Forall₂ registry.Resolves (prop? site.props ["fn", "function"]).toList
      (Block.leaf content).stagedCall?.toList := by
  obtain ⟨handle, output, hhandle, rfl⟩ := of_callLeaf h
  obtain ⟨hmem, callee, hprop, hcallee⟩ := of_calledFunction hhandle
  rw [hprop]
  exact .cons ⟨handle, hmem, rfl, hcallee⟩ .nil

private theorem resolves_of_lowerLeaf {registry : Registry} {tag : LeafTag} {site : Site}
    {content : Leaf} (h : (lowerLeaf registry tag site).Returns content) (place : TreePath) :
    List.Forall₂ registry.Resolves
      (if tag = .call then (prop? site.props ["fn", "function"]).toList else [])
      (callsAt ((Block.leaf content).walk place)) := by
  have hwalk : callsAt ((Block.leaf content).walk place) =
      (Block.leaf content).stagedCall?.toList := by
    rw [Block.walk, callsAt, List.filterMap_cons, List.filterMap_nil]
    cases (Block.leaf content).stagedCall? with
    | none => rfl
    | some call => rfl
  rw [hwalk]
  by_cases htag : tag = .call
  · subst htag
    rw [if_pos rfl]
    exact resolves_of_callLeaf h
  · have hkind : content.kind ≠ .stagedCall := by
      rw [kind_of_lowerLeaf h]
      revert htag
      cases tag <;> decide
    rw [if_neg htag, Block.stagedCall?_eq_none_of_kind hkind]
    exact .nil

/-! ## Lowering a tree -/

section

variable {registry : Registry}

private theorem resolves_of_aloneBlocks {child : Value} {block : Lower Block}
    {inline : Lower Inline} {blocks : List Block}
    (h : (aloneBlocks child block inline).Returns blocks)
    (hblock : ∀ {made : Block}, block.Returns made → ∀ place,
      List.Forall₂ registry.Resolves child.calls (callsAt (made.walk place)))
    (parent : TreePath) :
    List.Forall₂ registry.Resolves child.calls (callsAt (Block.walkFrom parent 0 blocks)) := by
  rw [aloneBlocks] at h
  cases hrole : child.childRole with
  | block =>
    rw [hrole] at h
    obtain ⟨made, hmade, h⟩ := h.of_bind
    rw [← h.eq_of_pure, Block.walkFrom, Block.walkFrom, List.append_nil]
    exact hblock hmade _
  | inline =>
    rw [hrole] at h
    obtain ⟨node, -, h⟩ := h.of_bind
    rw [← h.eq_of_pure, callsAt_gathered, Value.calls_of_childRole (by rw [hrole]; decide)]
    exact .nil
  | skipped | blank =>
    rw [hrole] at h
    rw [← h.eq_of_pure, Value.calls_of_childRole (by rw [hrole]; decide)]
    exact .nil

theorem Document.children_of_ofRecord {record : Record} {blocks : List Block} {document : Document}
    (h : Document.ofRecord record (.ok blocks) = .ok document) : document.children = blocks := by
  obtain ⟨frontmatter, -, h⟩ := bind_eq_ok_iff.mp h
  cases h
  rfl

variable (registry) in
/-- The calls of what is lowered become the staged calls of the result, one by one. The positions
under which the blocks are listed are arbitrary, since lowering puts together blocks that were made
apart. -/
def callInvariant : LoweringInvariant registry where
  block _ value action := ∀ block, action.Returns block → ∀ place,
    List.Forall₂ registry.Resolves value.calls (callsAt (block.walk place))
  blocks _ _ _ children action := ∀ blocks, action.Returns blocks → ∀ parent first,
    List.Forall₂ registry.Resolves (Value.callsIn children)
      (callsAt (Block.walkFrom parent first blocks))
  each _ _ values action := ∀ items, action.Returns items → ∀ parent first,
    List.Forall₂ registry.Resolves (Value.callsIn values)
      (callsAt (Block.walkItems parent first items))
  items _ _ children action := ∀ items, action.Returns items → ∀ parent first,
    List.Forall₂ registry.Resolves (Value.callsIn children)
      (callsAt (Block.walkItems parent first items))
  tree root action := ∀ document, action.Returns document →
    List.Forall₂ registry.Resolves root.treeCalls document.stagedCalls
  noElement _ _ h := absurd h (Lower.not_returns_throw _)
  unknown _ _ h := absurd h (Lower.not_returns_throw _)
  paragraph htag block h place := by
    obtain ⟨nodes, -, h⟩ := h.of_bind
    rw [← h.eq_of_pure, Site.element, Value.calls, htag]
    exact .nil
  heading htag block h place := by
    obtain ⟨nodes, -, h⟩ := h.of_bind
    obtain ⟨content, hcontent, h⟩ := h.of_bind
    have hkind : content.kind = .heading := Site.kind_of_made hcontent.eq_ok_of_lift
    have hcall : (Block.leaf content).stagedCall? = none :=
      Block.stagedCall?_eq_none_of_kind (by rw [hkind]; decide)
    rw [← h.eq_of_pure, Site.element, Value.calls, htag, Block.walk, callsAt_cons_of_none hcall]
    exact .nil
  list htag hlowered hothers block h place := by
    obtain ⟨listed, hlisted, h⟩ := h.of_bind
    obtain ⟨values, hvalues, hlisted⟩ := hlisted.of_bind
    obtain ⟨items, hitems, h⟩ := h.of_bind
    obtain ⟨head, -, h⟩ := h.of_bind
    have hprop := hvalues.eq_ok_of_lift
    -- The items of the prop come before those of the children.
    rw [← h.eq_of_pure, Site.element, Value.calls, htag, Value.itemsPropCalls_eq hprop, Block.walk,
      callsAt_cons_of_none rfl, Block.walkItems_append, callsAt_append]
    exact List.rel_append (hlowered values hprop listed hlisted place 0)
      (hothers items hitems place _)
  item htag hchildren block h place := by
    obtain ⟨blocks, hblocks, h⟩ := h.of_bind
    rw [← h.eq_of_pure, Site.element, Value.calls, htag, Block.walk, callsAt_cons_of_none rfl]
    exact hchildren blocks hblocks place 0
  container htag hchildren block h place := by
    obtain ⟨draft, -, h⟩ := h.of_bind
    obtain ⟨blocks, hblocks, h⟩ := h.of_bind
    obtain ⟨head, -, h⟩ := h.of_bind
    rw [← h.eq_of_pure, Site.element, Value.calls, htag, Block.walk, callsAt_cons_of_none rfl]
    exact hchildren blocks hblocks place 0
  leaf {site tag} htag block h place := by
    obtain ⟨content, hcontent, h⟩ := h.of_bind
    have hcalls := resolves_of_lowerLeaf hcontent place
    rw [← h.eq_of_pure, Site.element, Value.calls, htag]
    cases tag <;> exact hcalls
  blocksNil _ _ run blocks h parent first := by
    rw [Value.callsIn, ← h.eq_of_pure, callsAt_gathered]
    exact .nil
  blocksPass hrole hothers blocks h parent first := by
    rw [Value.callsIn, Value.calls_of_childRole hrole]
    exact hothers blocks h parent first
  blocksInline hrole hothers blocks h parent first := by
    obtain ⟨node, -, h⟩ := h.of_bind
    rw [Value.callsIn, Value.calls_of_childRole hrole]
    exact hothers node blocks h parent first
  blocksCons hfirst hothers blocks h parent first := by
    obtain ⟨block, hblock, h⟩ := h.of_bind
    obtain ⟨others, hrest, h⟩ := h.of_bind
    -- What was gathered before the block is a paragraph, which is no call.
    rw [← h.eq_of_pure, Block.walkFrom_append, callsAt_append, callsAt_gathered, List.nil_append,
      Block.walkFrom, callsAt_append, Value.callsIn]
    exact List.rel_append (hfirst block hblock _) (hothers others hrest parent _)
  eachNil _ _ items h _ _ := by
    rw [Value.callsIn, ← h.eq_of_pure]
    exact .nil
  eachCons hfirst hothers items h parent first := by
    obtain ⟨blocks, hblocks, h⟩ := h.of_bind
    obtain ⟨others, hrest, h⟩ := h.of_bind
    rw [Value.callsIn, ← h.eq_of_pure, callsAt_walkItems_cons]
    exact List.rel_append (resolves_of_aloneBlocks hblocks (hfirst _) _)
      (hothers others hrest parent (first + 1))
  itemsNil _ _ items h _ _ := by
    rw [Value.callsIn, ← h.eq_of_pure]
    exact .nil
  itemsPass hchild hothers items h parent first := by
    rw [Value.callsIn_cons_of_noElement hchild]
    exact hothers items h parent first
  itemsCons hfirst hothers items h parent first := by
    have hitem : Tag.ofName? "li" = some .item := by decide
    obtain ⟨blocks, hblocks, h⟩ := h.of_bind
    obtain ⟨others, hrest, h⟩ := h.of_bind
    rw [Value.callsIn, Value.calls, hitem, ← h.eq_of_pure, callsAt_walkItems_cons]
    exact List.rel_append (hfirst blocks hblocks _ 0) (hothers others hrest parent (first + 1))
  itemsRefused _ _ _ h := absurd h (Lower.not_returns_throw _)
  document hpath hname hchildren document h := by
    obtain ⟨frontmatter, -, h⟩ := h.of_bind
    obtain ⟨blocks, hblocks, h⟩ := h.of_bind
    have hmade := Document.children_of_ofRecord (Site.eq_ok_of_made h.eq_ok_of_lift)
    rw [Site.element, Value.treeCalls, if_pos hname, Document.stagedCalls, Document.walkBlocks,
      hmade]
    exact hchildren blocks hblocks [] 0
  alone hpath hname hmade document h := by
    obtain ⟨blocks, hblocks, h⟩ := h.of_bind
    rw [Site.element, Value.treeCalls, if_neg (by rw [hname]; exact Bool.false_ne_true),
      ← h.eq_of_pure]
    exact resolves_of_aloneBlocks hblocks (hmade _) []
  noTree _ _ _ h := absurd h (Lower.not_returns_throw _)

/-- **Every call of a tree becomes one staged call of its document,** in the same order, and there
are no other staged calls. Each is to a function of the registry that the tree gives or names. -/
theorem resolves_of_lowerTree {root : Value} {document : Document}
    (h : (lowerTree registry root).Returns document) :
    List.Forall₂ registry.Resolves root.treeCalls document.stagedCalls :=
  (callInvariant registry).tree_lowerTree root document h

/-- A tree that gives a function of another build is not lowered. -/
theorem not_returns_of_foreign {root : Value} {handle : Handle}
    (hcall : .handle handle ∈ root.treeCalls) (hforeign : handle ∉ registry.functions)
    (document : Document) : ¬(lowerTree registry root).Returns document := by
  intro h
  obtain ⟨call, -, hresolves⟩ := exists_mem_of_forall₂ (resolves_of_lowerTree h) hcall
  exact hforeign hresolves.mem_of_handle

/-- A call of a function that the registry does not hold is refused where it stands. -/
theorem lowerBlock_of_foreign {handle : Handle} {props : List (String × Value)}
    (hprop : prop? props ["fn", "function"] = some (.handle handle))
    (hforeign : handle ∉ registry.functions) (path : TreePath) (children : List Value)
    (counters : Counters) :
    (lowerBlock registry path (.element "Call" props children)).run.run counters =
      (.error (.located path (some "Call") (.notRegistered handle.name)), counters) := by
  have htag : Tag.ofName? "Call" = some (.leaf .call) := by decide
  have hholds : registry.holds handle = false := by
    rw [← Bool.not_eq_true]
    exact fun h ↦ hforeign (Registry.mem_of_holds h)
  have hrefused : calledFunction registry ⟨path, "Call", props, children⟩ =
      .error (.located path (some "Call") (.notRegistered handle.name)) := by
    rw [calledFunction, Site.require, hprop]
    change (if registry.holds handle = true then _ else _) = _
    rw [hholds]
    rfl
  rw [lowerBlock]
  simp only [htag]
  rw [lowerLeaf, callLeaf, hrefused]
  rfl

end

end Runbook
