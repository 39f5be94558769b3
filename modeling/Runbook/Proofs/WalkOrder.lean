import Runbook.Proofs.Unreachable

/-!
# The order of the walk

Everything that is reported by path rests on the walk: the check looks at the positions that it
lists, and the number of blocks is its length. Here it is compared with `Document.at?`, which knows
no traversal: it takes one index after the other and goes down to that child.

Lists hold items instead of blocks, so the walk treats them apart. Once their items are seen as
blocks, every block is walked in one way (`walk_eq`), and each fact is one induction over children.
-/

namespace Runbook

namespace Node

private theorem eq_inner_of_descend {block : Block} {path : TreePath} {target : Node}
    (h : (Node.inner block).descend path = some target) : ∃ found, target = .inner found := by
  induction path generalizing block with
  | nil => exact ⟨block, (Option.some.inj h).symm⟩
  | cons step below ih =>
    rw [descend] at h
    obtain ⟨child, -, htarget⟩ := Option.bind_eq_some_iff.mp h
    exact ih htarget

/-- A path that goes down at least once leads to a block. -/
theorem eq_inner_of_descend_cons {node target : Node} {step : Nat} {below : TreePath}
    (h : node.descend (step :: below) = some target) : ∃ found, target = .inner found := by
  rw [descend] at h
  obtain ⟨child, -, htarget⟩ := Option.bind_eq_some_iff.mp h
  exact eq_inner_of_descend htarget

end Node

namespace Block

private theorem walkItems_eq (parent : TreePath) (index : Nat) (items : List (List Block)) :
    walkItems parent index items = walkFrom parent index (items.map .item) := by
  induction items generalizing index with
  | nil => rw [walkItems, List.map_nil, walkFrom]
  | cons blocks rest ih => rw [walkItems, List.map_cons, walkFrom, walk, ih]

/-- All blocks are walked in one way: first the block, then what is below it. -/
theorem walk_eq (path : TreePath) (block : Block) :
    block.walk path = (path, block) :: walkFrom path 0 block.children := by
  cases block with
  | leaf content => rw [walk, children, walkFrom]
  | container head children => rw [walk]; rfl
  | item children => rw [walk]; rfl
  | list ordered start items => rw [walk, walkItems_eq]; rfl

variable {parent path : TreePath} {index : Nat} {position : TreePath × Block}

/-! ## The positions that are listed -/

theorem mem_walkFrom_iff {blocks : List Block} :
    position ∈ walkFrom parent index blocks ↔
      ∃ (offset : Nat) (child : Block), blocks[offset]? = some child ∧
        position ∈ child.walk (parent ++ [index + offset]) := by
  induction blocks generalizing index with
  | nil => simp [walkFrom]
  | cons block rest ih =>
    rw [walkFrom, List.mem_append, ih]
    constructor
    · rintro (hfirst | ⟨offset, child, hchild, hmem⟩)
      · exact ⟨0, block, rfl, hfirst⟩
      · rw [Nat.add_right_comm, Nat.add_assoc] at hmem
        exact ⟨offset + 1, child, hchild, hmem⟩
    · rintro ⟨offset, child, hchild, hmem⟩
      cases offset with
      | zero =>
        rw [List.getElem?_cons_zero] at hchild
        obtain rfl := Option.some.inj hchild
        exact .inl hmem
      | succ offset =>
        rw [List.getElem?_cons_succ] at hchild
        rw [← Nat.add_assoc, Nat.add_right_comm] at hmem
        exact .inr ⟨offset, child, hchild, hmem⟩

/-- The blocks below a node are listed if those below each child are. -/
theorem mem_walkFrom_children_iff (node : Node)
    (hchildren : ∀ child ∈ node.children, ∀ path position, position ∈ child.walk path ↔
      ∃ below, position.1 = path ++ below ∧
        (Node.inner child).descend below = some (.inner position.2)) (parent : TreePath)
    (position : TreePath × Block) :
    position ∈ walkFrom parent 0 node.children ↔
      ∃ step below, position.1 = parent ++ step :: below ∧
        node.descend (step :: below) = some (.inner position.2) := by
  rw [mem_walkFrom_iff]
  constructor
  · rintro ⟨step, child, hchild, hmem⟩
    rw [hchildren child (List.mem_of_getElem? hchild)] at hmem
    obtain ⟨below, hpath, htarget⟩ := hmem
    refine ⟨step, below, ?_, ?_⟩
    · rwa [Nat.zero_add, List.append_assoc, List.singleton_append] at hpath
    · rw [Node.descend, hchild]
      exact htarget
  · rintro ⟨step, below, hpath, htarget⟩
    rw [Node.descend] at htarget
    obtain ⟨child, hchild, htarget⟩ := Option.bind_eq_some_iff.mp htarget
    refine ⟨step, child, hchild, ?_⟩
    rw [hchildren child (List.mem_of_getElem? hchild), Nat.zero_add]
    exact ⟨below, by rwa [List.append_assoc, List.singleton_append], htarget⟩

private theorem mem_walk_iff (block : Block) : ∀ path position, position ∈ block.walk path ↔
    ∃ below, position.1 = path ++ below ∧
      (Node.inner block).descend below = some (.inner position.2) := by
  induction block using forall_of_children with
  | step block ih =>
    intro path position
    have hbelow := mem_walkFrom_children_iff (.inner block) ih path position
    rw [Node.children] at hbelow
    rw [walk_eq, List.mem_cons, hbelow]
    constructor
    · rintro (rfl | ⟨step, below, hpath, htarget⟩)
      · exact ⟨[], (List.append_nil _).symm, rfl⟩
      · exact ⟨step :: below, hpath, htarget⟩
    · rintro ⟨below, hpath, htarget⟩
      cases below with
      | nil =>
        rw [List.append_nil] at hpath
        have hblock : block = position.2 := Node.inner.inj (Option.some.inj htarget)
        exact .inl (Prod.ext hpath hblock.symm)
      | cons step below => exact .inr ⟨step, below, hpath, htarget⟩

/-! ## Their order -/

/-- Positions in ascending order of their paths: a node comes before what is below it, and that
before what is further to the right. -/
def InOrder (positions : List (TreePath × Block)) : Prop :=
  positions.Pairwise fun position next ↦ position.1 < next.1

private theorem path_of_mem_walkFrom {blocks : List Block}
    (h : position ∈ walkFrom parent index blocks) :
    ∃ (step : Nat) (below : TreePath), index ≤ step ∧ position.1 = parent ++ step :: below := by
  obtain ⟨offset, child, -, hmem⟩ := mem_walkFrom_iff.mp h
  obtain ⟨below, hpath, -⟩ := (mem_walk_iff child _ position).mp hmem
  refine ⟨index + offset, below, Nat.le_add_right _ _, ?_⟩
  rwa [List.append_assoc, List.singleton_append] at hpath

private theorem inOrder_walkFrom {blocks : List Block}
    (h : ∀ block ∈ blocks, ∀ path, InOrder (block.walk path)) (parent : TreePath) (index : Nat) :
    InOrder (walkFrom parent index blocks) := by
  induction blocks generalizing index with
  | nil => rw [walkFrom]; exact .nil
  | cons block rest ih =>
    rw [List.forall_mem_cons] at h
    rw [walkFrom, InOrder, List.pairwise_append]
    refine ⟨h.1 _, ih h.2 _, fun position hposition next hnext ↦ ?_⟩
    -- The two paths part below `parent`, where the first goes to an earlier child.
    obtain ⟨below, hpath, -⟩ := (mem_walk_iff block _ position).mp hposition
    obtain ⟨step, beyond, hstep, hbeyond⟩ := path_of_mem_walkFrom hnext
    rw [hpath, hbeyond, List.append_assoc, List.singleton_append]
    exact List.append_left_lt (List.cons_lt_cons_iff.mpr (.inl hstep))

/-- A node comes before all that is below it. -/
theorem lt_of_mem_walkFrom {blocks : List Block} (h : position ∈ walkFrom parent index blocks) :
    parent < position.1 := by
  obtain ⟨step, below, -, hpath⟩ := path_of_mem_walkFrom h
  have hlt : parent ++ [] < parent ++ step :: below :=
    List.append_left_lt (List.nil_lt_cons step below)
  rwa [List.append_nil, ← hpath] at hlt

private theorem inOrder_walk (block : Block) : ∀ path, InOrder (block.walk path) := by
  induction block using forall_of_children with
  | step block ih =>
    intro path
    rw [walk_eq]
    exact .cons (fun _ hnext ↦ lt_of_mem_walkFrom hnext) (inOrder_walkFrom ih path 0)

end Block

namespace Document

variable {document : Document}

private theorem mem_walk_iff_at? (path : TreePath) (node : Node) :
    (path, node) ∈ document.walk ↔ document.at? path = some node := by
  have hbelow (position : TreePath × Block) : position ∈ document.walkBlocks ↔
      ∃ step below, position.1 = [] ++ step :: below ∧
        document.at? (step :: below) = some (.inner position.2) :=
    Block.mem_walkFrom_children_iff (.root document) (fun child _ ↦ child.mem_walk_iff) [] position
  rw [walk, List.mem_cons, List.mem_map]
  constructor
  · rintro (hroot | ⟨position, hposition, heq⟩)
    · obtain ⟨rfl, rfl⟩ := Prod.mk.inj hroot
      rfl
    · obtain ⟨step, below, hpath, htarget⟩ := (hbelow position).mp hposition
      obtain ⟨rfl, rfl⟩ := Prod.mk.inj heq
      rw [hpath]
      exact htarget
  · intro hat
    cases path with
    | nil =>
      obtain rfl := Option.some.inj hat
      exact .inl rfl
    | cons step below =>
      obtain ⟨block, rfl⟩ := Node.eq_inner_of_descend_cons hat
      exact .inr ⟨(step :: below, block), (hbelow _).mpr ⟨step, below, rfl, hat⟩, rfl⟩

private theorem pairwise_lt_walk : (document.walk.map Prod.fst).Pairwise (· < ·) := by
  rw [walk, List.map_cons, List.map_map, List.pairwise_cons]
  constructor
  · intro path hpath
    obtain ⟨position, hposition, rfl⟩ := List.mem_map.mp hpath
    exact Block.lt_of_mem_walkFrom hposition
  · rw [List.pairwise_map]
    exact Block.inOrder_walkFrom (fun block _ ↦ block.inOrder_walk) [] 0

/-- **The walk visits each position exactly once.** It lists a node under a path exactly if the path
leads from the root to that node, it lists no path twice, and the paths ascend: a node comes before
what is below it, and what is below it before its later siblings. -/
theorem walk_visits_positions_once (document : Document) :
    (∀ path node, (path, node) ∈ document.walk ↔ document.at? path = some node) ∧
      (document.walk.map Prod.fst).Nodup ∧
      (document.walk.map Prod.fst).Pairwise (· < ·) := by
  refine ⟨mem_walk_iff_at?, List.nodup_iff_pairwise_ne.mpr ?_, pairwise_lt_walk⟩
  refine pairwise_lt_walk.imp fun hlt ↦ ?_
  rintro rfl
  exact List.lt_irrefl _ hlt

end Document

end Runbook
