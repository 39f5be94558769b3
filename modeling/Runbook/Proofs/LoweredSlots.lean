import Runbook.Proofs.Slots

/-!
# Variables that a lowered document writes

Staged calls, assignments, questions, agents and loops write variables. `Value.treeSlots` reads off
a tree how the slots that name these variables are filled, and `Document.written` reads off a
document what stands in them.

Lowering fills the slots of the tree one by one and in the same order, and it allocates names for
nothing else (`fill_of_lowerTree`). So what holds of the names in filled slots holds of the
variables of a document.
-/

namespace Runbook

open Lower

private theorem silent_lowerLeaf (registry : Registry) {tag : LeafTag} (h : tag ≠ .call)
    (site : Site) :
    (lowerLeaf registry tag site).Silent := by
  cases tag with
  | call => exact absurd rfl h
  | rule => exact silent_pure _
  | assign => exact .bind (silent_lift _) fun _ ↦ silent_pure _
  | breakLoop | endCommand => exact .bind (silent_lift _) fun _ ↦ silent_lift _
  | _ => exact silent_lift _

/-! ## Slots of a document -/

/-- What stands in the slots of a leaf that name variables to write. -/
def Leaf.written : Leaf → List Value
  | .stagedCall call => [call.output]
  | .assign assignment => [assignment.variableName]
  | .assignGroup assignments => assignments.map Assignment.variableName
  | .askUser question => [question.output]
  | _ => []

/-- What stands in the slots of a container that name variables to write. -/
def Container.written : Container → List Value
  | .agentSpawn spawn => [spawn.output]
  | .loop _ counter => [counter]
  | _ => []

/-- What stands in a block's own slots that name variables to write. -/
def Block.written : Block → List Value
  | .leaf content => content.written
  | .container head _ => head.written
  | .item _ | .list .. => []

/-- What stands in such slots of blocks that are listed with their positions. -/
def writtenAt (positions : List (TreePath × Block)) : List Value :=
  positions.flatMap fun position ↦ position.2.written

/-- What stands in the slots of a document that name variables to write. -/
def Document.written (document : Document) : List Value := writtenAt document.walkBlocks

private theorem writtenAt_cons (path : TreePath) (block : Block) (rest : List (TreePath × Block)) :
    writtenAt ((path, block) :: rest) = block.written ++ writtenAt rest := List.flatMap_cons

private theorem writtenAt_cons_of_nil {block : Block} (h : block.written = []) (path : TreePath)
    (rest : List (TreePath × Block)) : writtenAt ((path, block) :: rest) = writtenAt rest := by
  rw [writtenAt_cons, h, List.nil_append]

private theorem writtenAt_append (front back : List (TreePath × Block)) :
    writtenAt (front ++ back) = writtenAt front ++ writtenAt back := List.flatMap_append

private theorem writtenAt_walkItems_cons (parent : TreePath) (index : Nat) (blocks : List Block)
    (rest : List (List Block)) :
    writtenAt (Block.walkItems parent index (blocks :: rest)) =
      writtenAt (Block.walkFrom (parent ++ [index]) 0 blocks) ++
        writtenAt (Block.walkItems parent (index + 1) rest) := by
  rw [Block.walkItems, List.cons_append, writtenAt_cons_of_nil rfl, writtenAt_append]

private theorem writtenAt_gathered (parent : TreePath) (index : Nat) (run : List Inline) :
    writtenAt (Block.walkFrom parent index (gathered run)) = [] := by
  rw [gathered]
  split
  · rfl
  · rfl

/-! ## Slots of a tree -/

namespace Value

def calleeName : Value → String
  | .handle function => function.name
  | callee => callee.functionName?.getD ""

end Value

namespace Slot

/-- The slot that a prop fills. -/
def ofProp (props : List (String × Value)) (names : List String) : Slot :=
  .given ((prop? props names).getD .null)

def ofCall (props : List (String × Value)) : Slot :=
  if ((prop? props ["output"]).getD .null).isNull then
    .allocated ((prop? props ["fn", "function"]).getD .null).calleeName
  else ofProp props ["output"]

def ofAssignment? : Value → Option Slot
  | .element "Assign" props _ => some (ofProp props ["var", "variable"])
  | _ => none

end Slot

/-- The slots of an element that becomes a leaf. -/
def LeafTag.slots (tag : LeafTag) (props : List (String × Value)) (children : List Value) :
    List Slot :=
  match tag with
  | .call => [.ofCall props]
  | .assign => [.ofProp props ["var", "variable"]]
  | .assignGroup => children.filterMap Slot.ofAssignment?
  | .askUser => [.ofProp props ["output"]]
  | _ => []

/-- The slots of an element that becomes a container. -/
def ContainerTag.slots (tag : ContainerTag) (props : List (String × Value)) : List Slot :=
  match tag with
  | .spawnAgent => [.ofProp props ["output"]]
  | .loop => [.ofProp props ["counter"]]
  | _ => []

namespace Value

mutual
/-- The slots of an element and of what is inside it, from the first to the last. -/
def slots : Value → List Slot
  | .element name props children =>
    match Tag.ofName? name with
    | some (.list _) => itemsPropSlots props ++ slotsIn children
    | some .item => slotsIn children
    | some (.container tag) => tag.slots props ++ slotsIn children
    | some (.leaf tag) => tag.slots props children
    | _ => []
  | _ => []

def slotsIn : List Value → List Slot
  | [] => []
  | child :: rest => slots child ++ slotsIn rest

def itemsPropSlots : List (String × Value) → List Slot
  | [] => []
  | (name, value) :: rest => if name = "items" then itemSlots value else itemsPropSlots rest

def itemSlots : Value → List Slot
  | .list items => slotsIn items
  | .tuple items => slotsIn items
  | .mapping entries => keySlots entries
  | _ => []

/-- The slots of the keys of a mapping. -/
def keySlots : List (Value × Value) → List Slot
  | [] => []
  | (key, _) :: rest => slots key ++ keySlots rest
end

def treeSlots : Value → List Slot
  | .element name props children =>
    if documentNames.contains name then slotsIn children
    else slots (.element name props children)
  | _ => []

private theorem slotsIn_cons_of_noElement {value : Value} (h : value.NoElement)
    (rest : List Value) :
    slotsIn (value :: rest) = slotsIn rest := by
  rw [slotsIn]
  cases value with
  | element name props children => exact absurd rfl (h name props children)
  | _ => simp only [slots, List.nil_append]

private theorem slotsIn_of_noElement {values : List Value} (h : ∀ value ∈ values, value.NoElement) :
    slotsIn values = [] := by
  induction values with
  | nil => rw [slotsIn]
  | cons value rest ih =>
    obtain ⟨hvalue, hrest⟩ := List.forall_mem_cons.mp h
    rw [slotsIn_cons_of_noElement hvalue, ih hrest]

private theorem keySlots_eq (entries : List (Value × Value)) :
    keySlots entries = slotsIn (entries.map Prod.fst) := by
  induction entries with
  | nil => rw [keySlots, List.map_nil, slotsIn]
  | cons entry rest ih => rw [keySlots, List.map_cons, slotsIn, ih]

private theorem itemSlots_eq {value : Value} {values : List Value} (h : listed value = .ok values) :
    itemSlots value = slotsIn values := by
  cases value with
  | list items | tuple items =>
    rw [listed_of_elements? rfl (by simp [truthy])] at h
    rw [itemSlots, Except.ok.inj h]
  | mapping entries =>
    rw [listed_of_elements? rfl (by simp [truthy])] at h
    rw [itemSlots, keySlots_eq, Except.ok.inj h]
  | _ =>
    rw [slotsIn_of_noElement (noElement_of_listed rfl h)]
    simp only [itemSlots]

private theorem itemsPropSlots_eq {props : List (String × Value)} {values : List Value}
    (h : itemsProp props = .ok values) : itemsPropSlots props = slotsIn values := by
  induction props with
  | nil => rw [itemsPropSlots, ← Except.ok.inj h, slotsIn]
  | cons entry rest ih =>
    obtain ⟨name, value⟩ := entry
    rw [itemsPropSlots]
    split
    · next hname =>
      subst hname
      rw [itemsProp_cons_self] at h
      exact itemSlots_eq h
    · next hname =>
      rw [itemsProp_cons_of_ne hname] at h
      exact ih h

/-- What is no block has no slots. -/
theorem slots_of_childRole {child : Value} (h : child.childRole ≠ .block) : child.slots = [] := by
  cases child with
  | element name props children =>
    rw [childRole] at h
    split at h
    · next hinline => rw [slots, Tag.ofName?_of_inline hinline]
    · exact absurd rfl h
  | _ => simp only [slots]

end Value

/-! ## Leaves -/

/-- Leaves of most kinds write nothing. -/
theorem Leaf.written_of_kind {content : Leaf}
    (h : content.kind ∉ [Kind.stagedCall, .assign, .assignGroup, .askUser]) :
    content.written = [] := by
  cases content with
  | stagedCall | assign | assignGroup | askUser => exact absurd (by simp [Leaf.kind]) h
  | _ => rfl

theorem Site.prop?_of_require {site : Site} {name : String} {others : List String} {value : Value}
    (h : site.require name others = .ok value) :
    prop? site.props (name :: others) = some value := by
  rw [Site.require] at h
  split at h
  · next hprop => rw [hprop, Except.ok.inj h]
  · cases h

private theorem Assignment.eq_of_check {assignment checked : Assignment}
    (h : assignment.check = .ok checked) : assignment = checked := by
  rw [check] at h
  split at h
  · split at h
    · exact Except.ok.inj h
    · cases h
  · split at h
    · cases h
    · exact Except.ok.inj h
  · exact Except.ok.inj h

private theorem given_of_assignmentOf {site : Site} {assignment : Assignment}
    (h : assignmentOf site = .ok assignment) :
    Slot.ofProp site.props ["var", "variable"] = .given assignment.variableName := by
  rw [assignmentOf] at h
  split at h
  · obtain ⟨name, hname, h⟩ := bind_eq_ok_iff.mp h
    obtain ⟨variableName, hvariable, h⟩ := bind_eq_ok_iff.mp (Site.eq_ok_of_made h)
    obtain ⟨source, -, h⟩ := bind_eq_ok_iff.mp h
    obtain ⟨content, -, h⟩ := bind_eq_ok_iff.mp h
    obtain ⟨comment, -, h⟩ := bind_eq_ok_iff.mp h
    have hsame : name = variableName := Except.ok.inj hvariable
    rw [Slot.ofProp, Site.prop?_of_require hname, ← Assignment.eq_of_check h, hsame]
    rfl
  · cases h

private theorem given_of_assignmentsOf {site : Site} {index : Nat} {children : List Value}
    {assignments : List Assignment} (h : assignmentsOf site index children = .ok assignments) :
    children.filterMap Slot.ofAssignment? =
      (assignments.map Assignment.variableName).map Slot.given := by
  induction children generalizing index assignments with
  | nil =>
    rw [← Except.ok.inj h]
    rfl
  | cons child rest ih =>
    unfold assignmentsOf at h
    split at h
    · next hleft =>
      have hnone : Slot.ofAssignment? child = none := by
        revert hleft
        cases child <;> simp [Value.isSkipped, Value.isBlank, Value.text?, Slot.ofAssignment?]
      rw [List.filterMap_cons_none hnone]
      exact ih h
    · split at h
      · next props inner _ =>
        obtain ⟨first, hfirst, h⟩ := bind_eq_ok_iff.mp h
        obtain ⟨others, hothers, h⟩ := bind_eq_ok_iff.mp h
        have hslot : Slot.ofAssignment? (.element "Assign" props inner) =
            some (.given first.variableName) := congrArg some (given_of_assignmentOf hfirst)
        rw [List.filterMap_cons_some hslot, ih hothers, ← Except.ok.inj h]
        rfl
      · cases h

private theorem given_of_questionLeaf {site : Site} {content : Leaf}
    (h : questionLeaf site = .ok content) :
    [Slot.ofProp site.props ["output"]] = content.written.map Slot.given := by
  obtain ⟨items, -, h⟩ := bind_eq_ok_iff.mp h
  obtain ⟨options, -, h⟩ := bind_eq_ok_iff.mp h
  obtain ⟨text, -, h⟩ := bind_eq_ok_iff.mp h
  obtain ⟨output, houtput, h⟩ := bind_eq_ok_iff.mp h
  obtain ⟨question, hquestion, h⟩ := bind_eq_ok_iff.mp (Site.eq_ok_of_made h)
  obtain ⟨content, -, hquestion⟩ := bind_eq_ok_iff.mp hquestion
  obtain ⟨choices, -, hquestion⟩ := bind_eq_ok_iff.mp hquestion
  obtain ⟨given, hgiven, hquestion⟩ := bind_eq_ok_iff.mp hquestion
  obtain ⟨header, -, hquestion⟩ := bind_eq_ok_iff.mp hquestion
  obtain ⟨multiple, -, hquestion⟩ := bind_eq_ok_iff.mp hquestion
  have hsame : output = given := Except.ok.inj hgiven
  rw [Slot.ofProp, Site.prop?_of_require houtput, ← Except.ok.inj h, ← Except.ok.inj hquestion,
    hsame]
  rfl

private theorem calleeName_of_calledFunction {registry : Registry} {site : Site} {handle : Handle}
    (h : calledFunction registry site = .ok handle) :
    ((prop? site.props ["fn", "function"]).getD .null).calleeName = handle.name := by
  obtain ⟨-, callee, hprop, hcallee⟩ := of_calledFunction h
  rw [hprop, Option.getD_some]
  rcases hcallee with rfl | hname
  · rfl
  · cases callee with
    | text name | member m => exact Option.some.inj hname
    | _ => cases hname

/-- A call without an output gets the next name for its function. -/
theorem fill_of_callLeaf {registry : Registry} {site : Site} {before after : Counters}
    {content : Leaf} (h : (callLeaf registry site).Ends before content after) :
    Slot.fill [.ofCall site.props] before = (content.written, after) := by
  obtain ⟨handle, between, hhandle, h⟩ := h.of_bind
  obtain ⟨hcalled, rfl⟩ := hhandle.of_lift
  dsimp only at h
  have hslot : Slot.ofCall site.props = if (site.prop ["output"]).isNull then
      .allocated handle.name else .given (site.prop ["output"]) := by
    rw [Slot.ofCall, calleeName_of_calledFunction hcalled]
    rfl
  split at h
  · next hnull =>
    rw [hslot, if_pos hnull]
    obtain ⟨output, between, houtput, h⟩ := h.of_bind
    obtain ⟨rfl, rfl⟩ := h.of_pure
    obtain ⟨hok, rfl⟩ := Prod.mk.inj houtput
    rw [← Except.ok.inj hok]
    rfl
  · next hnull =>
    rw [hslot, if_neg hnull]
    obtain ⟨output, between, houtput, h⟩ := h.of_bind
    obtain ⟨rfl, rfl⟩ := houtput.of_pure
    obtain ⟨rfl, rfl⟩ := h.of_pure
    rfl

private theorem fill_of_lowerLeaf {registry : Registry} {tag : LeafTag} {site : Site}
    {before after : Counters} {content : Leaf}
    (h : (lowerLeaf registry tag site).Ends before content after) :
    Slot.fill (tag.slots site.props site.children) before = (content.written, after) := by
  by_cases hcall : tag = .call
  · subst hcall
    exact fill_of_callLeaf h
  · obtain rfl := h.eq_of_silent (silent_lowerLeaf registry hcall site)
    suffices hslots : tag.slots site.props site.children = content.written.map Slot.given by
      rw [hslots, Slot.fill_map_given]
    have hkind := kind_of_lowerLeaf h.returns
    cases tag with
    | call => exact absurd rfl hcall
    | assign =>
      obtain ⟨assignment, between, hassignment, h⟩ := h.of_bind
      obtain ⟨rfl, -⟩ := h.of_pure
      exact congrArg (· :: []) (given_of_assignmentOf hassignment.of_lift.1)
    | assignGroup =>
      obtain ⟨assignments, hassignments, h⟩ := bind_eq_ok_iff.mp h.of_lift.1
      split at h
      · cases h
      · rw [← Except.ok.inj h]
        exact given_of_assignmentsOf hassignments
    | askUser => exact given_of_questionLeaf h.of_lift.1
    | _ =>
      rw [Leaf.written_of_kind (by rw [hkind]; decide)]
      rfl

/-! ## Containers -/

/-- The fields of a container that name variables to write. -/
def Kind.writtenFields : Kind → List String
  | .agentSpawn => ["output"]
  | .loop => ["counter"]
  | _ => []

private theorem Container.written_of_ofRecord {kind : Kind} {record : Record} {head : Container}
    (h : ofRecord kind record = .ok head) :
    head.written = kind.writtenFields.map fun field ↦ record.any field .null := by
  cases kind with
  | xmlBlock | executionReference | statusBranch =>
    obtain ⟨first, -, h⟩ := bind_eq_ok_iff.mp h
    obtain ⟨second, -, h⟩ := bind_eq_ok_iff.mp h
    rw [← Except.ok.inj h]
    rfl
  | blockquote | group | elseBranch =>
    rw [← Except.ok.inj h]
    rfl
  | indent | conditional | loop =>
    obtain ⟨read, -, h⟩ := bind_eq_ok_iff.mp h
    rw [← Except.ok.inj h]
    rfl
  | step =>
    obtain ⟨number, -, h⟩ := bind_eq_ok_iff.mp h
    obtain ⟨name, -, h⟩ := bind_eq_ok_iff.mp h
    obtain ⟨layout, -, h⟩ := bind_eq_ok_iff.mp h
    rw [← Except.ok.inj h]
    rfl
  | agentSpawn =>
    obtain ⟨agent, -, h⟩ := bind_eq_ok_iff.mp h
    obtain ⟨model, -, h⟩ := bind_eq_ok_iff.mp h
    obtain ⟨description, -, h⟩ := bind_eq_ok_iff.mp h
    obtain ⟨prompt, -, h⟩ := bind_eq_ok_iff.mp h
    obtain ⟨file, -, h⟩ := bind_eq_ok_iff.mp h
    rw [← Except.ok.inj h]
    rfl
  | _ => cases h

private theorem given_of_checkDraft {tag : ContainerTag} {site : Site} {draft : Draft}
    {head : Container} (hdraft : draftContainer tag site = .ok draft)
    (hhead : checkDraft site draft = .ok head) :
    tag.slots site.props = head.written.map Slot.given := by
  have hwritten := Container.written_of_ofRecord (Site.eq_ok_of_made hhead)
  rw [hwritten]
  clear hwritten hhead
  cases tag with
  | blockquote | indent | executionContext | otherwise =>
    rw [← Except.ok.inj hdraft]
    rfl
  | xmlBlock | ifTrue =>
    obtain ⟨read, -, h⟩ := bind_eq_ok_iff.mp hdraft
    rw [← Except.ok.inj h]
    rfl
  | division =>
    rw [draftContainer] at hdraft
    split at hdraft
    · obtain ⟨read, -, h⟩ := bind_eq_ok_iff.mp hdraft
      rw [← Except.ok.inj h]
      rfl
    · rw [← Except.ok.inj hdraft]
      rfl
  | step | onStatus =>
    obtain ⟨first, -, h⟩ := bind_eq_ok_iff.mp hdraft
    obtain ⟨second, -, h⟩ := bind_eq_ok_iff.mp h
    rw [← Except.ok.inj h]
    rfl
  | spawnAgent =>
    obtain ⟨agent, -, h⟩ := bind_eq_ok_iff.mp hdraft
    obtain ⟨model, -, h⟩ := bind_eq_ok_iff.mp h
    obtain ⟨description, -, h⟩ := bind_eq_ok_iff.mp h
    rw [← Except.ok.inj h]
    rfl
  | loop =>
    obtain ⟨bound, -, h⟩ := bind_eq_ok_iff.mp hdraft
    rw [← Except.ok.inj h]
    rfl

/-! ## Trees -/

section

variable {registry : Registry} {before after : Counters}

private theorem fill_of_aloneBlocks {child : Value} {block : Lower Block} {inline : Lower Inline}
    {blocks : List Block} (h : (aloneBlocks child block inline).Ends before blocks after)
    (hblock : ∀ {made : Block}, block.Ends before made after →
      ∀ place, Slot.fill child.slots before = (writtenAt (made.walk place), after))
    (hinline : inline.Silent) (parent : TreePath) :
    Slot.fill child.slots before = (writtenAt (Block.walkFrom parent 0 blocks), after) := by
  rw [aloneBlocks] at h
  cases hrole : child.childRole with
  | block =>
    rw [hrole] at h
    obtain ⟨made, between, hmade, h⟩ := h.of_bind
    obtain ⟨rfl, rfl⟩ := h.of_pure
    rw [Block.walkFrom, Block.walkFrom, List.append_nil]
    exact hblock hmade _
  | inline =>
    rw [hrole] at h
    obtain ⟨node, between, hnode, h⟩ := h.of_bind
    obtain ⟨rfl, rfl⟩ := h.of_pure
    rw [writtenAt_gathered, Value.slots_of_childRole (by rw [hrole]; decide),
      hnode.eq_of_silent hinline]
    rfl
  | skipped | blank =>
    rw [hrole] at h
    obtain ⟨rfl, rfl⟩ := h.of_pure
    rw [Value.slots_of_childRole (by rw [hrole]; decide)]
    rfl

variable (registry) in
/-- The slots of what is lowered are filled one by one, and the counters go from each to the
next. -/
def slotInvariant : LoweringInvariant registry where
  block _ value action := ∀ before block after, action.Ends before block after → ∀ place,
    Slot.fill value.slots before = (writtenAt (block.walk place), after)
  blocks _ _ _ children action := ∀ before blocks after, action.Ends before blocks after →
    ∀ parent first, Slot.fill (Value.slotsIn children) before =
      (writtenAt (Block.walkFrom parent first blocks), after)
  each _ _ values action := ∀ before items after, action.Ends before items after →
    ∀ parent first, Slot.fill (Value.slotsIn values) before =
      (writtenAt (Block.walkItems parent first items), after)
  items _ _ children action := ∀ before items after, action.Ends before items after →
    ∀ parent first, Slot.fill (Value.slotsIn children) before =
      (writtenAt (Block.walkItems parent first items), after)
  tree root action := ∀ before document after, action.Ends before document after →
    Slot.fill root.treeSlots before = (document.written, after)
  noElement _ _ _ _ h := absurd h not_ends_throw
  unknown _ _ _ _ h := absurd h not_ends_throw
  paragraph {site} htag before block after h place := by
    obtain ⟨nodes, between, hnodes, h⟩ := h.of_bind
    obtain ⟨rfl, rfl⟩ := h.of_pure
    rw [Site.element, Value.slots, htag,
      hnodes.eq_of_silent (silent_lowerInlines site.path 0 site.children)]
    rfl
  heading {site level} htag before block after h place := by
    obtain ⟨nodes, between, hnodes, h⟩ := h.of_bind
    obtain ⟨content, between, hcontent, h⟩ := h.of_bind
    obtain ⟨rfl, rfl⟩ := h.of_pure
    obtain ⟨hmade, rfl⟩ := hcontent.of_lift
    have hkind : content.kind = .heading := Site.kind_of_made hmade
    have hwritten : (Block.leaf content).written = [] :=
      Leaf.written_of_kind (by rw [hkind]; decide)
    rw [Site.element, Value.slots, htag, Block.walk, writtenAt_cons_of_nil hwritten,
      hnodes.eq_of_silent (silent_lowerInlines site.path 0 site.children)]
    rfl
  list htag hlowered hothers before block after h place := by
    obtain ⟨listed, between, hlisted, h⟩ := h.of_bind
    obtain ⟨values, between, hvalues, hlisted⟩ := hlisted.of_bind
    obtain ⟨items, between, hitems, h⟩ := h.of_bind
    obtain ⟨head, between, hhead, h⟩ := h.of_bind
    obtain ⟨rfl, rfl⟩ := h.of_pure
    obtain ⟨-, rfl⟩ := hhead.of_lift
    obtain ⟨hprop, rfl⟩ := hvalues.of_lift
    -- The items of the prop come before those of the children.
    rw [Site.element, Value.slots, htag, Value.itemsPropSlots_eq hprop, Block.walk,
      writtenAt_cons_of_nil rfl, Block.walkItems_append, writtenAt_append]
    exact Slot.fill_append (hlowered values hprop _ _ _ hlisted place 0)
      (hothers _ _ _ hitems place _)
  item htag hchildren before block after h place := by
    obtain ⟨blocks, between, hblocks, h⟩ := h.of_bind
    obtain ⟨rfl, rfl⟩ := h.of_pure
    rw [Site.element, Value.slots, htag, Block.walk, writtenAt_cons_of_nil rfl]
    exact hchildren _ _ _ hblocks place 0
  container {site tag children} htag hchildren before block after h place := by
    obtain ⟨draft, between, hdraft, h⟩ := h.of_bind
    obtain ⟨blocks, between, hblocks, h⟩ := h.of_bind
    obtain ⟨head, between, hhead, h⟩ := h.of_bind
    obtain ⟨rfl, rfl⟩ := h.of_pure
    obtain ⟨hdrafted, rfl⟩ := hdraft.of_lift
    obtain ⟨hchecked, rfl⟩ := hhead.of_lift
    have hown : Slot.fill (tag.slots site.props) before = (head.written, before) := by
      rw [given_of_checkDraft hdrafted hchecked, Slot.fill_map_given]
    rw [Site.element, Value.slots, htag, Block.walk, writtenAt_cons]
    exact Slot.fill_append hown (hchildren _ _ _ hblocks place 0)
  leaf htag before block after h place := by
    obtain ⟨content, between, hcontent, h⟩ := h.of_bind
    obtain ⟨rfl, rfl⟩ := h.of_pure
    have hwritten : writtenAt ((Block.leaf content).walk place) = content.written := by
      rw [Block.walk, writtenAt_cons]
      exact List.append_nil _
    rw [Site.element, Value.slots, htag, hwritten]
    exact fill_of_lowerLeaf hcontent
  blocksNil _ _ run before blocks after h parent first := by
    obtain ⟨rfl, rfl⟩ := h.of_pure
    rw [Value.slotsIn, writtenAt_gathered]
    rfl
  blocksPass hrole hothers before blocks after h parent first := by
    rw [Value.slotsIn, Value.slots_of_childRole hrole]
    exact hothers _ _ _ h parent first
  blocksInline {path index run child rest others} hrole hothers before blocks after h parent
      first := by
    obtain ⟨node, between, hnode, h⟩ := h.of_bind
    rw [Value.slotsIn, Value.slots_of_childRole hrole,
      hnode.eq_of_silent (silent_lowerInline _ child)]
    exact hothers node _ _ _ h parent first
  blocksCons hfirst hothers before blocks after h parent first := by
    obtain ⟨block, between, hblock, h⟩ := h.of_bind
    obtain ⟨others, between, hrest, h⟩ := h.of_bind
    obtain ⟨rfl, rfl⟩ := h.of_pure
    -- What was gathered before the block is a paragraph, which writes nothing.
    rw [Block.walkFrom_append, writtenAt_append, writtenAt_gathered, List.nil_append,
      Block.walkFrom, writtenAt_append, Value.slotsIn]
    exact Slot.fill_append (hfirst _ _ _ hblock _) (hothers _ _ _ hrest parent _)
  eachNil _ _ before items after h _ _ := by
    obtain ⟨rfl, rfl⟩ := h.of_pure
    rw [Value.slotsIn]
    rfl
  eachCons {path index value rest first others} hfirst hothers before items after h parent
      place := by
    obtain ⟨blocks, between, hblocks, h⟩ := h.of_bind
    obtain ⟨others, between, hrest, h⟩ := h.of_bind
    obtain ⟨rfl, rfl⟩ := h.of_pure
    rw [Value.slotsIn, writtenAt_walkItems_cons]
    exact Slot.fill_append
      (fill_of_aloneBlocks hblocks (hfirst _ _ _) (silent_lowerInline _ value) _)
      (hothers _ _ _ hrest parent (place + 1))
  itemsNil _ _ before items after h _ _ := by
    obtain ⟨rfl, rfl⟩ := h.of_pure
    rw [Value.slotsIn]
    rfl
  itemsPass hchild hothers before items after h parent first := by
    rw [Value.slotsIn_cons_of_noElement hchild]
    exact hothers _ _ _ h parent first
  itemsCons hfirst hothers before items after h parent first := by
    have hitem : Tag.ofName? "li" = some .item := by decide
    obtain ⟨blocks, between, hblocks, h⟩ := h.of_bind
    obtain ⟨others, between, hrest, h⟩ := h.of_bind
    obtain ⟨rfl, rfl⟩ := h.of_pure
    rw [Value.slotsIn, Value.slots, hitem, writtenAt_walkItems_cons]
    exact Slot.fill_append (hfirst _ _ _ hblocks _ 0) (hothers _ _ _ hrest parent (first + 1))
  itemsRefused _ _ _ _ _ h := absurd h not_ends_throw
  document hpath hname hchildren before document after h := by
    obtain ⟨frontmatter, between, hfrontmatter, hrest⟩ := h.of_bind
    obtain ⟨blocks, between, hblocks, hdocument⟩ := hrest.of_bind
    obtain ⟨-, rfl⟩ := hfrontmatter.of_lift
    obtain ⟨hmade, rfl⟩ := hdocument.of_lift
    rw [Site.element, Value.treeSlots, if_pos hname, Document.written, Document.walkBlocks,
      Document.children_of_ofRecord (Site.eq_ok_of_made hmade)]
    exact hchildren _ _ _ hblocks [] 0
  alone {site made} hpath hname hmade before document after h := by
    obtain ⟨blocks, between, hblocks, h⟩ := h.of_bind
    obtain ⟨rfl, rfl⟩ := h.of_pure
    rw [Site.element, Value.treeSlots, if_neg (by rw [hname]; exact Bool.false_ne_true)]
    exact fill_of_aloneBlocks hblocks (hmade _ _ _) (silent_lowerInline _ site.element) []
  noTree _ _ _ _ _ h := absurd h not_ends_throw

/-- **Lowering fills the slots of a tree one by one,** and allocates names for nothing else. -/
theorem fill_of_lowerTree {root : Value} {document : Document}
    (h : (lowerTree registry root).Ends before document after) :
    Slot.fill root.treeSlots before = (document.written, after) :=
  (slotInvariant registry).tree_lowerTree root before document after h

end

/-- **An allocated variable is unused unless the author wrote it.** Let a tree be lowered in a build
that has allocated nothing yet. Its document has the slots of the tree, in the same order. What the
author wrote into a slot stands there. A call without an output gets the capitals of its function
and a number: how many of the calls without an output up to this one are to functions with the same
capitals.

So no two allocated variables are equal. Each of them differs from the variable of every other slot
exactly if the author wrote none of the names that are allocated. -/
theorem keepsApart_written_iff {registry : Registry} {root : Value} {document : Document}
    {after : Counters} (h : (lowerTree registry root).run.run [] = (.ok document, after)) :
    document.written.length = root.treeSlots.length ∧
      (∀ (i : Nat) (value : Value), root.treeSlots[i]? = some (Slot.given value) →
        document.written[i]? = some value) ∧
      (∀ (i : Nat) (function : String), root.treeSlots[i]? = some (Slot.allocated function) →
        document.written[i]? = some (Value.staged ⟨numbered (Text.upper function)
          ((root.treeSlots.take (i + 1)).countP (Slot.isFor (Text.upper function))), []⟩)) ∧
      (∀ (i j : Nat) (first second : String), i < j →
        root.treeSlots[i]? = some (Slot.allocated first) →
        root.treeSlots[j]? = some (Slot.allocated second) →
        Slot.variableAt document.written i ≠ Slot.variableAt document.written j) ∧
      (Slot.KeepsApart root.treeSlots document.written ↔
        ∀ value, .given value ∈ root.treeSlots →
          ∀ name ∈ value.variableName?, ¬Slot.Allocates root.treeSlots name) := by
  have hwritten : document.written = (Slot.fill root.treeSlots []).1 := by
    rw [fill_of_lowerTree h]
  rw [hwritten]
  refine ⟨Slot.length_fill _ _, fun i value hi ↦ Slot.fill_given hi [], fun i function hi ↦ ?_,
    fun i j first second hij hi hj ↦ Slot.variableAt_ne_of_lt hij hi hj,
    Slot.keepsApart_fill_iff _⟩
  rw [Slot.fill_allocated hi, Counters.count, List.lookup_nil, Option.getD_none, Nat.zero_add]

/-- Two functions that share a counter, called in the items of a list, and an author who wrote the
name that would have come next. -/
theorem keepsApart_written_iff_next :
    let handle (name : String) : Handle := ⟨none, name, ⟨[.any], .any⟩, "", false, [], []⟩
    let registry : Registry := { functions := [handle "load", handle "Load"] }
    let call (props : List (String × Value)) : Value := .element "Call" props []
    let root : Value := .element "document" []
      [.element "ul" [("items", .list [call [("fn", .text "load")]])]
        [.element "li" [] [call [("fn", .handle (handle "Load"))]]],
      .element "Loop" [("max", .int 3), ("counter", .staged ⟨"I_1", []⟩)]
        [call [("fn", .text "load"), ("output", .text "OUT_1")]],
      .element "AssignGroup" []
        [.text " ", .element "Assign" [("var", .text "LOAD_3"), ("value", .int 1)] []]]
    ∃ document after, (lowerTree registry root).run.run [] = (.ok document, after) ∧
      document.written.map Value.variableName? =
        [some "LOAD_1", some "LOAD_2", some "I_1", some "OUT_1", some "LOAD_3"] ∧
      Slot.KeepsApart root.treeSlots document.written := by
  intro handle registry call root
  refine ⟨_, _, rfl, by decide +kernel, ?_⟩
  have hslots : root.treeSlots = [.allocated "load", .allocated "Load",
      .given (.staged ⟨"I_1", []⟩), .given (.text "OUT_1"), .given (.text "LOAD_3")] := rfl
  have hlowered := keepsApart_written_iff (show (lowerTree registry root).run.run [] = _ from rfl)
  refine hlowered.2.2.2.2.mpr fun value hvalue name hname ↦ ?_
  rw [hslots] at hvalue ⊢
  simp only [List.mem_cons, Slot.given.injEq, reduceCtorEq, List.not_mem_nil, false_or,
    or_false] at hvalue
  rcases hvalue with rfl | rfl | rfl
  · obtain rfl : "I_1" = name := Option.some.inj hname
    change ¬Slot.Allocates _ (numbered "I" 1)
    exact Slot.not_allocates_numbered (by decide +kernel)
  · obtain rfl : "OUT_1" = name := Option.some.inj hname
    change ¬Slot.Allocates _ (numbered "OUT" 1)
    exact Slot.not_allocates_numbered (by decide +kernel)
  · obtain rfl : "LOAD_3" = name := Option.some.inj hname
    change ¬Slot.Allocates _ (numbered "LOAD" 3)
    exact Slot.not_allocates_numbered (by decide +kernel)

/-- The author assigns to the name that a call without an output gets: the call then overwrites what
was assigned. -/
theorem not_keepsApart_assigned :
    let handle : Handle := ⟨none, "load", ⟨[.any], .any⟩, "", false, [], []⟩
    let root : Value := .element "document" []
      [.element "Assign" [("var", .text "LOAD_1"), ("value", .text "x")] [],
        .element "Call" [("fn", .text "load")] []]
    ∃ document after,
      (lowerTree { functions := [handle] } root).run.run [] = (.ok document, after) ∧
        ¬Slot.KeepsApart root.treeSlots document.written := by
  intro handle root
  refine ⟨_, _, rfl, fun h ↦ ?_⟩
  exact h 1 0 "load" rfl (by decide) (by decide +kernel)

end Runbook
