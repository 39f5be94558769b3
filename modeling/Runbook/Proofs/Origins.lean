import Runbook.Proofs.LoweredCalls
import Runbook.Proofs.WalkOrder

/-!
# Where blocks come from

Lowering makes each block either from an element of the tree or by gathering inline nodes into a
paragraph. Elements stand in the children of other elements and in the items that the props of
lists hold (`Value.Holds`). `Origin` says for each form of block which element it was made from and
that the props of that element were read for it, so whatever reading refuses is in no block.

Each step of lowering keeps this (`originInvariant`), with `Block.Everywhere` in place of positions;
what is to be known about single blocks is then a matter of cases.
-/

namespace Runbook

/-! ## All blocks below a block -/

namespace Block

/-- Holds of a block and of all blocks below it. -/
inductive Everywhere (p : Block → Prop) : Block → Prop where
  | intro {block : Block} (own : p block) (below : ∀ child ∈ block.children, Everywhere p child) :
    Everywhere p block

variable {p q : Block → Prop}

theorem everywhere_iff {block : Block} :
    Everywhere p block ↔ p block ∧ ∀ child ∈ block.children, Everywhere p child := by
  constructor
  · rintro ⟨own, below⟩
    exact ⟨own, below⟩
  · rintro ⟨own, below⟩
    exact ⟨own, below⟩

theorem Everywhere.imp {block : Block} (himp : ∀ block, p block → q block)
    (h : Everywhere p block) : Everywhere q block := by
  induction h with
  | intro own _ ih => exact ⟨himp _ own, ih⟩

/-- What holds everywhere in the blocks of a sequence holds at the positions below each of them. -/
theorem forall_mem_walkFrom_iff {blocks : List Block}
    (hblocks : ∀ block ∈ blocks, ∀ path, Everywhere p block ↔ ∀ position ∈ block.walk path,
      p position.2) (parent : TreePath) (index : Nat) :
    (∀ position ∈ walkFrom parent index blocks, p position.2) ↔
      ∀ block ∈ blocks, Everywhere p block := by
  constructor
  · intro h block hblock
    obtain ⟨offset, hoffset⟩ := List.mem_iff_getElem?.mp hblock
    rw [hblocks block hblock (parent ++ [index + offset])]
    intro position hposition
    exact h position (mem_walkFrom_iff.mpr ⟨offset, block, hoffset, hposition⟩)
  · intro h position hposition
    obtain ⟨offset, block, hoffset, hmem⟩ := mem_walkFrom_iff.mp hposition
    have hblock := List.mem_of_getElem? hoffset
    exact (hblocks block hblock _).mp (h block hblock) position hmem

private theorem everywhere_iff_walk (block : Block) : ∀ path,
    Everywhere p block ↔ ∀ position ∈ block.walk path, p position.2 := by
  induction block using forall_of_children with
  | step block ih =>
    intro path
    rw [walk_eq, List.forall_mem_cons, forall_mem_walkFrom_iff ih, everywhere_iff]

end Block

theorem Document.everywhere_iff {p : Block → Prop} {document : Document} :
    (∀ block ∈ document.children, block.Everywhere p) ↔
      ∀ path block, (path, .inner block) ∈ document.walk → p block := by
  rw [← Block.forall_mem_walkFrom_iff (fun block _ ↦ block.everywhere_iff_walk) [] 0]
  constructor
  · intro h path block hmem
    rcases List.mem_cons.mp hmem with hroot | hmem
    · cases hroot
    · obtain ⟨position, hposition, heq⟩ := List.mem_map.mp hmem
      cases heq
      exact h position hposition
  · rintro h ⟨path, block⟩ hposition
    exact h path block (List.mem_cons_of_mem _ (List.mem_map_of_mem hposition))

/-! ## Elements of a tree -/

/-- The values of a tree that lowering comes to: the root, the children of elements, and the items
that the props of elements list. -/
inductive Value.Holds (root : Value) : Value → Prop where
  | root : Holds root root
  | child {name : String} {props : List (String × Value)} {children : List Value} {child : Value}
    (h : Holds root (.element name props children)) (hchild : child ∈ children) : Holds root child
  | item {name : String} {props : List (String × Value)} {children items : List Value}
    {given item : Value} (h : Holds root (.element name props children))
    (hgiven : props.lookup "items" = some given) (hitems : given.elements? = some items)
    (hitem : item ∈ items) : Holds root item

/-- The site is that of a block element in the tree. -/
structure Site.In (site : Site) (root : Value) (tag : Tag) : Prop where
  holds : root.Holds (.element site.name site.props site.children)
  tag : Tag.ofName? site.name = some tag

/-- What a block was made from. -/
inductive Origin (registry : Registry) (root : Value) : Block → Prop where
  | paragraph (nodes : List Inline) : Origin registry root (.leaf (.paragraph nodes))
  | heading {site : Site} {given : Option Nat} {level : Nat} (nodes : List Inline)
    (hsite : site.In root (.heading given))
    (hlevel : Read.natural 1 (some 6) (site.level given) = .ok level) :
    Origin registry root (.leaf (.heading level nodes))
  | leaf {site : Site} {tag : LeafTag} {content : Leaf} (hsite : site.In root (.leaf tag))
    (hcontent : (lowerLeaf registry tag site).Returns content) :
    Origin registry root (.leaf content)
  | container {site : Site} {tag : ContainerTag} {draft : Draft} {head : Container}
    (children : List Block) (hsite : site.In root (.container tag))
    (hdraft : draftContainer tag site = .ok draft) (hhead : checkDraft site draft = .ok head) :
    Origin registry root (.container head children)
  | item (children : List Block) : Origin registry root (.item children)
  | list {site : Site} {tagged ordered : Bool} {start : Nat} (items : List (List Block))
    (hsite : site.In root (.list tagged))
    (hstart : Read.natural 0 none site.start = .ok start) :
    Origin registry root (.list ordered start items)

/-! ## Following lowering -/

section

open Lower

variable {registry : Registry} {root : Value}

theorem Read.eq_ok_of_below {α : Type} {part : String} {read : Read α} {value : α}
    (h : read.below part = .ok value) : read = .ok value := by
  cases read with
  | error fault => cases h
  | ok read =>
    cases h
    rfl

theorem Record.eq_of_required {α : Type} {record : Record} {name : String} {read : Value → Read α}
    {value : Value} {result : α} (h : record.required name read = .ok result)
    (hvalue : record name = some value) : read value = .ok result := by
  rw [required, hvalue] at h
  exact Read.eq_ok_of_below h

theorem Record.eq_of_field {α : Type} {record : Record} {name : String} {read : Value → Read α}
    {value : Value} {default result : α} (h : record.field name default read = .ok result)
    (hvalue : record name = some value) : read value = .ok result := by
  rw [field, hvalue] at h
  exact Read.eq_ok_of_below h

private theorem everywhere_origin_of_gathered {run : List Inline} :
    ∀ block ∈ gathered run, block.Everywhere (Origin registry root) := by
  intro block hblock
  rw [gathered] at hblock
  split at hblock
  · exact absurd hblock List.not_mem_nil
  · rw [List.mem_singleton.mp hblock]
    exact ⟨.paragraph run, List.forall_mem_nil _⟩

private theorem everywhere_origin_of_aloneBlocks {child : Value} {block : Lower Block}
    {inline : Lower Inline} {blocks : List Block}
    (h : (aloneBlocks child block inline).Returns blocks)
    (hblock : ∀ made, block.Returns made → made.Everywhere (Origin registry root)) :
    ∀ made ∈ blocks, made.Everywhere (Origin registry root) := by
  rw [aloneBlocks] at h
  cases hrole : child.childRole with
  | block =>
    rw [hrole] at h
    obtain ⟨made, hmade, h⟩ := h.of_bind
    rw [← h.eq_of_pure]
    exact List.forall_mem_singleton.mpr (hblock made hmade)
  | inline =>
    rw [hrole] at h
    obtain ⟨node, -, h⟩ := h.of_bind
    rw [← h.eq_of_pure]
    exact everywhere_origin_of_gathered
  | skipped | blank =>
    rw [hrole] at h
    rw [← h.eq_of_pure]
    exact List.forall_mem_nil _

private theorem everywhere_item {blocks : List Block}
    (h : ∀ block ∈ blocks, block.Everywhere (Origin registry root)) :
    (Block.item blocks).Everywhere (Origin registry root) := ⟨.item blocks, h⟩

private theorem natural_of_readListHead {record : Record} {head : Bool × Nat} {given : Value}
    (h : Block.readListHead record = .ok head) (hgiven : record "start" = some given) :
    Read.natural 0 none given = .ok head.2 := by
  obtain ⟨ordered, -, h⟩ := bind_eq_ok_iff.mp h
  obtain ⟨start, hstart, h⟩ := bind_eq_ok_iff.mp h
  rw [← Except.ok.inj h]
  exact Record.eq_of_field hstart hgiven

private theorem exists_elements?_of_itemsProp {props : List (String × Value)} {values : List Value}
    (h : itemsProp props = .ok values) {value : Value} (hvalue : value ∈ values) :
    ∃ given, props.lookup "items" = some given ∧ given.elements? = some values := by
  rw [itemsProp] at h
  split at h
  · rw [← Except.ok.inj h] at hvalue
    cases hvalue
  · next given hgiven =>
    rcases elements?_of_listed h with rfl | helements
    · cases hvalue
    · exact ⟨given, hgiven, helements⟩

variable (registry root) in
/-- What is lowered is held by the root, and every block of the result has an origin there. -/
def originInvariant : LoweringInvariant registry where
  block _ value action := root.Holds value → ∀ block, action.Returns block →
    block.Everywhere (Origin registry root)
  blocks _ _ _ children action := (∀ child ∈ children, root.Holds child) →
    ∀ blocks, action.Returns blocks → ∀ block ∈ blocks, block.Everywhere (Origin registry root)
  each _ _ values action := (∀ value ∈ values, root.Holds value) →
    ∀ items, action.Returns items →
      ∀ blocks ∈ items, ∀ block ∈ blocks, block.Everywhere (Origin registry root)
  items _ _ children action := (∀ child ∈ children, root.Holds child) →
    ∀ items, action.Returns items →
      ∀ blocks ∈ items, ∀ block ∈ blocks, block.Everywhere (Origin registry root)
  tree top action := root.Holds top → ∀ document, action.Returns document →
    ∀ block ∈ document.children, block.Everywhere (Origin registry root)
  noElement _ _ _ h := absurd h (not_returns_throw _)
  unknown _ _ _ h := absurd h (not_returns_throw _)
  paragraph _ _ block h := by
    obtain ⟨nodes, -, h⟩ := h.of_bind
    rw [← h.eq_of_pure]
    exact ⟨.paragraph nodes, List.forall_mem_nil _⟩
  heading htag hroot block h := by
    obtain ⟨nodes, -, h⟩ := h.of_bind
    obtain ⟨content, hcontent, h⟩ := h.of_bind
    obtain ⟨read, hread, hcontent⟩ :=
      bind_eq_ok_iff.mp (Site.eq_ok_of_made hcontent.eq_ok_of_lift)
    rw [← h.eq_of_pure, ← Except.ok.inj hcontent]
    exact ⟨.heading nodes ⟨hroot, htag⟩ (Read.eq_ok_of_below hread), List.forall_mem_nil _⟩
  list htag hlowered hothers hroot block h := by
    obtain ⟨listed, hlisted, h⟩ := h.of_bind
    obtain ⟨values, hvalues, hlisted⟩ := hlisted.of_bind
    obtain ⟨items, hitems, h⟩ := h.of_bind
    obtain ⟨head, hhead, h⟩ := h.of_bind
    have hprop := hvalues.eq_ok_of_lift
    have hstart := natural_of_readListHead (Site.eq_ok_of_made hhead.eq_ok_of_lift) rfl
    rw [← h.eq_of_pure]
    refine ⟨.list _ ⟨hroot, htag⟩ hstart, ?_⟩
    refine List.forall_mem_map.mpr (List.forall_mem_append.mpr ⟨?_, ?_⟩)
    · intro blocks hblocks
      refine everywhere_item (hlowered values hprop (fun value hvalue ↦ ?_) _ hlisted _ hblocks)
      obtain ⟨given, hgiven, helements⟩ := exists_elements?_of_itemsProp hprop hvalue
      exact hroot.item hgiven helements hvalue
    · intro blocks hblocks
      exact everywhere_item (hothers (fun _ ↦ hroot.child) _ hitems _ hblocks)
  item _ hchildren hroot block h := by
    obtain ⟨blocks, hblocks, h⟩ := h.of_bind
    rw [← h.eq_of_pure]
    exact everywhere_item (hchildren (fun _ ↦ hroot.child) _ hblocks)
  container htag hchildren hroot block h := by
    obtain ⟨draft, hdraft, h⟩ := h.of_bind
    obtain ⟨blocks, hblocks, h⟩ := h.of_bind
    obtain ⟨head, hhead, h⟩ := h.of_bind
    rw [← h.eq_of_pure]
    exact ⟨.container blocks ⟨hroot, htag⟩ hdraft.eq_ok_of_lift hhead.eq_ok_of_lift,
      hchildren (fun _ ↦ hroot.child) _ hblocks⟩
  leaf htag hroot block h := by
    obtain ⟨content, hcontent, h⟩ := h.of_bind
    rw [← h.eq_of_pure]
    exact ⟨.leaf ⟨hroot, htag⟩ hcontent, List.forall_mem_nil _⟩
  blocksNil _ _ run _ blocks h := by
    rw [← h.eq_of_pure]
    exact everywhere_origin_of_gathered
  blocksPass _ hothers hroot blocks h := hothers (List.forall_mem_cons.mp hroot).2 blocks h
  blocksInline _ hothers hroot blocks h := by
    obtain ⟨node, -, h⟩ := h.of_bind
    exact hothers node (List.forall_mem_cons.mp hroot).2 blocks h
  blocksCons hfirst hothers hroot blocks h := by
    obtain ⟨hchild, hrest⟩ := List.forall_mem_cons.mp hroot
    obtain ⟨block, hblock, h⟩ := h.of_bind
    obtain ⟨others, hmade, h⟩ := h.of_bind
    rw [← h.eq_of_pure]
    refine List.forall_mem_append.mpr ⟨everywhere_origin_of_gathered, ?_⟩
    exact List.forall_mem_cons.mpr ⟨hfirst hchild block hblock, hothers hrest others hmade⟩
  eachNil _ _ _ items h := by
    rw [← h.eq_of_pure]
    exact List.forall_mem_nil _
  eachCons hfirst hothers hroot items h := by
    obtain ⟨hvalue, hrest⟩ := List.forall_mem_cons.mp hroot
    obtain ⟨blocks, hblocks, h⟩ := h.of_bind
    obtain ⟨others, hmade, h⟩ := h.of_bind
    rw [← h.eq_of_pure]
    exact List.forall_mem_cons.mpr
      ⟨everywhere_origin_of_aloneBlocks hblocks (hfirst hvalue), hothers hrest others hmade⟩
  itemsNil _ _ _ items h := by
    rw [← h.eq_of_pure]
    exact List.forall_mem_nil _
  itemsPass _ hothers hroot items h := hothers (List.forall_mem_cons.mp hroot).2 items h
  itemsCons hfirst hothers hroot items h := by
    obtain ⟨hitem, hrest⟩ := List.forall_mem_cons.mp hroot
    obtain ⟨blocks, hblocks, h⟩ := h.of_bind
    obtain ⟨others, hmade, h⟩ := h.of_bind
    rw [← h.eq_of_pure]
    exact List.forall_mem_cons.mpr
      ⟨hfirst (fun _ ↦ hitem.child) blocks hblocks, hothers hrest others hmade⟩
  itemsRefused _ _ _ _ h := absurd h (not_returns_throw _)
  document _ _ hchildren hroot document h := by
    obtain ⟨frontmatter, -, h⟩ := h.of_bind
    obtain ⟨blocks, hblocks, h⟩ := h.of_bind
    rw [Document.children_of_ofRecord (Site.eq_ok_of_made h.eq_ok_of_lift)]
    exact hchildren (fun _ ↦ hroot.child) blocks hblocks
  alone _ _ hmade hroot document h := by
    obtain ⟨blocks, hblocks, h⟩ := h.of_bind
    rw [← h.eq_of_pure]
    exact everywhere_origin_of_aloneBlocks hblocks (hmade hroot)
  noTree _ _ _ _ h := absurd h (not_returns_throw _)

/-- Every block of a lowered document, at any depth, has an origin in the tree. -/
theorem everywhere_origin_of_lowerTree {document : Document}
    (h : (lowerTree registry root).Returns document) :
    ∀ block ∈ document.children, block.Everywhere (Origin registry root) :=
  (originInvariant registry root).tree_lowerTree root .root document h

end

end Runbook
