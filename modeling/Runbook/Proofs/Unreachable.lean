import Mathlib.Data.List.Basic
import Runbook.Check.ControlFlow
import Runbook.Proofs.Position
import Runbook.Proofs.Prune

/-!
# Unreachable blocks

A sequence of blocks can be ended before its last block. The check then warns of the first block
behind the first certain end, once for each sequence; the state that it carries along (`Reach`) says
whether the end has been met and whether the warning has been given. Emission and pruning drop the
blocks that the warning is about.

Here the warnings are described without that state: `Unreached` finds the block in a sequence, and a
document has one warning for each node whose children hold such a block, in the order of the paths.
So a document has no warnings exactly if pruning leaves it as it is.
-/

namespace Runbook

namespace Block

/-! ## Blocks and their children -/

mutual
/-- What holds of a block whenever it holds of its children holds of every block. -/
theorem forall_of_children {motive : Block → Prop}
    (step : ∀ block : Block, (∀ child ∈ block.children, motive child) → motive block)
    (block : Block) : motive block := by
  match block with
  | .leaf content => exact step _ (List.forall_mem_nil _)
  | .container head children => exact step _ (forall_mem_of_children step children)
  | .item children => exact step _ (forall_mem_of_children step children)
  | .list ordered start items => exact step _ (forall_item_of_children step items)

theorem forall_mem_of_children {motive : Block → Prop}
    (step : ∀ block : Block, (∀ child ∈ block.children, motive child) → motive block)
    (blocks : List Block) : ∀ block ∈ blocks, motive block := by
  match blocks with
  | [] => exact List.forall_mem_nil _
  | block :: rest =>
    refine List.forall_mem_cons.mpr ⟨?_, forall_mem_of_children step rest⟩
    exact forall_of_children step block

theorem forall_item_of_children {motive : Block → Prop}
    (step : ∀ block : Block, (∀ child ∈ block.children, motive child) → motive block)
    (items : List (List Block)) : ∀ block ∈ items.map .item, motive block := by
  match items with
  | [] => exact List.forall_mem_nil _
  | blocks :: rest =>
    refine List.forall_mem_cons.mpr ⟨?_, forall_item_of_children step rest⟩
    exact step _ (forall_mem_of_children step blocks)
end

private theorem itemWarnings_eq (parent : TreePath) (index : Nat) (reach : Reach)
    (items : List (List Block)) :
    itemWarnings parent index reach items = warningsFrom parent index reach (items.map .item) := by
  induction items generalizing index reach with
  | nil => rw [itemWarnings, List.map_nil, warningsFrom]
  | cons blocks rest ih =>
    rw [itemWarnings, List.map_cons, warningsFrom, ih, warnings, exit?]
    rfl

/-- All blocks warn of what is below them in one way. -/
theorem warnings_eq (path : TreePath) (block : Block) :
    block.warnings path = warningsFrom path 0 .live block.children := by
  match block with
  | .leaf content => rw [warnings, children, warningsFrom]
  | .container head children => rw [warnings]; rfl
  | .item children => rw [warnings]; rfl
  | .list ordered start items => rw [warnings, itemWarnings_eq]; rfl

/-! ## The block that is not reached -/

/-- The first block behind the first certain end of a sequence stands at the index; the end is the
given one. -/
def Unreached (blocks : List Block) (index : Nat) (block : Block) (exit : Exit) : Prop :=
  ∃ before last rest, blocks = before ++ last :: block :: rest ∧ index = before.length + 1 ∧
    (∀ earlier ∈ before, earlier.exit? = none) ∧ last.exit? = some exit

/-- The first block behind the first certain end, with its index and that end. -/
def unreached? : List Block → Option (Nat × Block × Exit)
  | [] => none
  | block :: rest =>
    match block.exit? with
    | some exit => rest.head?.map fun next ↦ (1, next, exit)
    | none => (unreached? rest).map fun found ↦ (found.1 + 1, found.2)

private theorem unreached?_cons_of_some {block : Block} {exit : Exit} (h : block.exit? = some exit)
    (rest : List Block) :
    unreached? (block :: rest) = rest.head?.map fun next ↦ (1, next, exit) := by
  rw [unreached?, h]

private theorem unreached?_cons_of_none {block : Block} (h : block.exit? = none)
    (rest : List Block) :
    unreached? (block :: rest) = (unreached? rest).map fun found ↦ (found.1 + 1, found.2) := by
  rw [unreached?, h]

private theorem unreached_of_unreached? {blocks : List Block} {found : Nat × Block × Exit}
    (h : unreached? blocks = some found) : Unreached blocks found.1 found.2.1 found.2.2 := by
  induction blocks generalizing found with
  | nil => cases h
  | cons block rest ih =>
    cases hexit : block.exit? with
    | some exit =>
      rw [unreached?_cons_of_some hexit] at h
      obtain ⟨next, hnext, rfl⟩ := Option.map_eq_some_iff.mp h
      obtain ⟨others, rfl⟩ := List.head?_eq_some_iff.mp hnext
      exact ⟨[], block, others, rfl, rfl, List.forall_mem_nil _, hexit⟩
    | none =>
      rw [unreached?_cons_of_none hexit] at h
      obtain ⟨other, hother, rfl⟩ := Option.map_eq_some_iff.mp h
      obtain ⟨before, last, others, hrest, hindex, hbefore, hlast⟩ := ih hother
      refine ⟨block :: before, last, others, ?_, ?_, ?_, hlast⟩
      · rw [hrest, List.cons_append]
      · rw [List.length_cons, hindex]
      · exact List.forall_mem_cons.mpr ⟨hexit, hbefore⟩

private theorem unreached?_eq_some_iff {blocks : List Block} {index : Nat} {block : Block}
    {exit : Exit} :
    unreached? blocks = some (index, block, exit) ↔ Unreached blocks index block exit := by
  constructor
  · exact unreached_of_unreached?
  · rintro ⟨before, last, rest, rfl, rfl, hbefore, hlast⟩
    induction before with
    | nil => rw [List.nil_append, unreached?_cons_of_some hlast]; rfl
    | cons first others ih =>
      rw [List.forall_mem_cons] at hbefore
      rw [List.cons_append, unreached?_cons_of_none hbefore.1, ih hbefore.2]
      rfl

/-- Some block of the sequence stands behind a certain end. -/
def EndsEarly (blocks : List Block) : Prop :=
  ∃ before last rest, blocks = before ++ last :: rest ∧ last.exit?.isSome = true ∧ rest ≠ []

private theorem isSome_unreached?_iff {blocks : List Block} :
    (unreached? blocks).isSome = true ↔ EndsEarly blocks := by
  constructor
  · intro h
    obtain ⟨found, hfound⟩ := Option.isSome_iff_exists.mp h
    obtain ⟨before, last, rest, hblocks, -, -, hlast⟩ := unreached_of_unreached? hfound
    exact ⟨before, last, _, hblocks, by rw [hlast]; rfl, List.cons_ne_nil _ _⟩
  · rintro ⟨before, last, rest, rfl, hlast, hrest⟩
    induction before with
    | nil =>
      obtain ⟨exit, hexit⟩ := Option.isSome_iff_exists.mp hlast
      rw [List.nil_append, unreached?_cons_of_some hexit, Option.isSome_map, List.isSome_head?]
      exact hrest
    | cons first others ih =>
      cases hexit : first.exit? with
      | some exit =>
        rw [List.cons_append, unreached?_cons_of_some hexit]
        cases others <;> rfl
      | none =>
        rw [List.cons_append, unreached?_cons_of_none hexit, Option.isSome_map]
        exact ih

/-! ## Warnings on a sequence -/

/-- The warning on a block that was found behind the end of a sequence below `parent`. -/
def unreachedWarning (parent : TreePath) (index : Nat) (block : Block) (exit : Exit) : Warning :=
  ⟨parent ++ [index], block.kind, exit⟩

/-- The warning is on one of the blocks, which stand below `parent` from the index on. -/
def WarnsHere (parent : TreePath) (index : Nat) (blocks : List Block) (warning : Warning) : Prop :=
  ∃ offset block exit, unreached? blocks = some (offset, block, exit) ∧
    warning = unreachedWarning parent (index + offset) block exit

/-- The warning is from below one of the blocks. -/
def WarnsBelow (parent : TreePath) (index : Nat) (blocks : List Block) (warning : Warning) : Prop :=
  ∃ (offset : Nat) (block : Block), blocks[offset]? = some block ∧
    warning ∈ block.warnings (parent ++ [index + offset])

variable {parent : TreePath} {index : Nat} {warning : Warning}

private theorem warnsHere_cons_iff_of_some {block : Block} {exit : Exit} {rest : List Block}
    (h : block.exit? = some exit) :
    WarnsHere parent index (block :: rest) warning ↔
      ∃ next, rest.head? = some next ∧
        warning = unreachedWarning parent (index + 1) next exit := by
  rw [WarnsHere, unreached?_cons_of_some h]
  constructor
  · rintro ⟨offset, found, last, hfound, rfl⟩
    obtain ⟨next, hnext, heq⟩ := Option.map_eq_some_iff.mp hfound
    cases heq
    exact ⟨found, hnext, rfl⟩
  · rintro ⟨next, hnext, rfl⟩
    exact ⟨1, next, exit, by rw [hnext]; rfl, rfl⟩

private theorem warnsHere_cons_iff_of_none {block : Block} {rest : List Block}
    (h : block.exit? = none) :
    WarnsHere parent index (block :: rest) warning ↔
      WarnsHere parent (index + 1) rest warning := by
  rw [WarnsHere, unreached?_cons_of_none h]
  constructor
  · rintro ⟨offset, found, last, hfound, rfl⟩
    obtain ⟨⟨earlier, next, exit⟩, hnext, heq⟩ := Option.map_eq_some_iff.mp hfound
    cases heq
    exact ⟨earlier, found, last, hnext, by rw [Nat.add_right_comm]; rfl⟩
  · rintro ⟨offset, found, last, hfound, rfl⟩
    exact ⟨offset + 1, found, last, by rw [hfound]; rfl, by rw [Nat.add_right_comm]; rfl⟩

private theorem warnsBelow_cons_iff {block : Block} {rest : List Block} :
    WarnsBelow parent index (block :: rest) warning ↔
      warning ∈ block.warnings (parent ++ [index]) ∨
        WarnsBelow parent (index + 1) rest warning := by
  constructor
  · rintro ⟨offset, found, hfound, hwarning⟩
    cases offset with
    | zero =>
      rw [List.getElem?_cons_zero] at hfound
      obtain rfl := Option.some.inj hfound
      exact .inl hwarning
    | succ offset =>
      rw [List.getElem?_cons_succ] at hfound
      rw [← Nat.add_assoc, Nat.add_right_comm] at hwarning
      exact .inr ⟨offset, found, hfound, hwarning⟩
  · rintro (hwarning | ⟨offset, found, hfound, hwarning⟩)
    · exact ⟨0, block, rfl, hwarning⟩
    · rw [Nat.add_right_comm, Nat.add_assoc] at hwarning
      exact ⟨offset + 1, found, hfound, hwarning⟩

-- One lemma for each state that the check can be in. A sequence starts live, is ended by its first
-- certain end, and has been reported after the next block.

private theorem mem_warningsFrom_reported_iff {blocks : List Block} :
    warning ∈ warningsFrom parent index .reported blocks ↔
      WarnsBelow parent index blocks warning := by
  induction blocks generalizing index with
  | nil => simp [warningsFrom, WarnsBelow]
  | cons block rest ih =>
    rw [warningsFrom, warnsBelow_cons_iff, List.mem_append, ← ih]
    rfl

private theorem mem_warningsFrom_ended_iff {exit : Exit} {blocks : List Block} :
    warning ∈ warningsFrom parent index (.ended exit) blocks ↔
      (∃ next, blocks.head? = some next ∧ warning = unreachedWarning parent index next exit) ∨
        WarnsBelow parent index blocks warning := by
  cases blocks with
  | nil => simp [warningsFrom, WarnsBelow]
  | cons block rest =>
    have hreach : (Reach.ended exit).after block.exit? = .reported := rfl
    rw [warningsFrom, hreach, warnsBelow_cons_iff, List.mem_append, List.mem_append, or_assoc,
      mem_warningsFrom_reported_iff]
    simp [Reach.warn, unreachedWarning]

private theorem mem_warningsFrom_live_iff {blocks : List Block} :
    warning ∈ warningsFrom parent index .live blocks ↔
      WarnsHere parent index blocks warning ∨ WarnsBelow parent index blocks warning := by
  induction blocks generalizing index with
  | nil => simp [warningsFrom, WarnsHere, unreached?, WarnsBelow]
  | cons block rest ih =>
    rw [warningsFrom, warnsBelow_cons_iff, List.mem_append]
    cases hexit : block.exit? with
    | some exit =>
      have hreach : Reach.live.after (some exit) = .ended exit := rfl
      rw [warnsHere_cons_iff_of_some hexit, hreach, mem_warningsFrom_ended_iff, or_left_comm]
      rfl
    | none =>
      have hreach : Reach.live.after none = .live := rfl
      rw [warnsHere_cons_iff_of_none hexit, hreach, ih, or_left_comm]
      rfl

/-! ## Warnings on a tree -/

/-- The warnings on the children of a node and on all that is below them. -/
theorem mem_warningsFrom_children_iff (node : Node)
    (hchildren : ∀ child ∈ node.children, ∀ path warning, warning ∈ child.warnings path ↔
      ∃ below target, (Node.inner child).descend below = some target ∧
        WarnsHere (path ++ below) 0 target.children warning) (path : TreePath)
    (warning : Warning) :
    warning ∈ warningsFrom path 0 .live node.children ↔
      ∃ below target, node.descend below = some target ∧
        WarnsHere (path ++ below) 0 target.children warning := by
  rw [mem_warningsFrom_live_iff]
  constructor
  · rintro (hhere | ⟨offset, child, hchild, hwarning⟩)
    · exact ⟨[], node, rfl, by rwa [List.append_nil]⟩
    · rw [hchildren child (List.mem_of_getElem? hchild)] at hwarning
      obtain ⟨below, target, htarget, hhere⟩ := hwarning
      refine ⟨offset :: below, target, ?_, ?_⟩
      · rw [Node.descend, hchild]
        exact htarget
      · rwa [Nat.zero_add, List.append_assoc, List.singleton_append] at hhere
  · rintro ⟨below, target, htarget, hhere⟩
    cases below with
    | nil =>
      obtain rfl := Option.some.inj htarget
      exact .inl (by rwa [List.append_nil] at hhere)
    | cons offset below =>
      rw [Node.descend] at htarget
      obtain ⟨child, hchild, htarget⟩ := Option.bind_eq_some_iff.mp htarget
      refine .inr ⟨offset, child, hchild, ?_⟩
      rw [hchildren child (List.mem_of_getElem? hchild), Nat.zero_add]
      exact ⟨below, target, htarget, by rwa [List.append_assoc, List.singleton_append]⟩

private theorem mem_warnings_iff (block : Block) : ∀ path warning, warning ∈ block.warnings path ↔
    ∃ below target, (Node.inner block).descend below = some target ∧
      WarnsHere (path ++ below) 0 target.children warning := by
  induction block using forall_of_children with
  | step block ih =>
    intro path warning
    rw [warnings_eq]
    exact mem_warningsFrom_children_iff (.inner block) ih path warning

/-! ## The order of the warnings -/

private theorem path_of_mem_warnings {block : Block} {path : TreePath}
    (h : warning ∈ block.warnings path) :
    ∃ (offset : Nat) (below : TreePath), warning.path = path ++ offset :: below := by
  obtain ⟨below, target, -, offset, found, exit, -, rfl⟩ :=
    (mem_warnings_iff block path warning).mp h
  cases below with
  | nil => exact ⟨0 + offset, [], by simp [unreachedWarning]⟩
  | cons first below => exact ⟨first, below ++ [0 + offset], by simp [unreachedWarning]⟩

private theorem path_of_mem_warningsFrom {reach : Reach} {blocks : List Block}
    (h : warning ∈ warningsFrom parent index reach blocks) :
    ∃ (offset : Nat) (below : TreePath), index ≤ offset ∧
      warning.path = parent ++ offset :: below := by
  induction blocks generalizing index reach with
  | nil => simp [warningsFrom] at h
  | cons block rest ih =>
    rw [warningsFrom, List.mem_append, List.mem_append] at h
    rcases h with (hwarn | hbelow) | hrest
    · cases reach with
      | live | reported => cases hwarn
      | ended exit =>
        rw [List.mem_singleton.mp hwarn]
        exact ⟨index, [], Nat.le_refl _, rfl⟩
    · obtain ⟨offset, below, hpath⟩ := path_of_mem_warnings hbelow
      refine ⟨index, offset :: below, Nat.le_refl _, ?_⟩
      rw [hpath, List.append_assoc, List.singleton_append]
    · obtain ⟨offset, below, hoffset, hpath⟩ := ih hrest
      exact ⟨offset, below, Nat.le_of_succ_le hoffset, hpath⟩

/-- Warnings in ascending order of their paths: what is further down comes later, and then what is
further to the right. -/
def Ascending (warnings : List Warning) : Prop :=
  warnings.Pairwise fun warning next ↦ warning.path < next.path

private theorem ascending_warningsFrom {blocks : List Block}
    (h : ∀ block ∈ blocks, ∀ path, Ascending (block.warnings path)) (parent : TreePath)
    (index : Nat) (reach : Reach) : Ascending (warningsFrom parent index reach blocks) := by
  induction blocks generalizing index reach with
  | nil => rw [warningsFrom]; exact .nil
  | cons block rest ih =>
    rw [List.forall_mem_cons] at h
    have hself : ∀ warning ∈ reach.warn (parent ++ [index]) block.kind,
        warning.path = parent ++ [index] := by
      intro warning hwarning
      cases reach with
      | live | reported => cases hwarning
      | ended exit => rw [List.mem_singleton.mp hwarning]
    rw [warningsFrom, Ascending, List.pairwise_append, List.pairwise_append]
    refine ⟨⟨?_, h.1 _, fun warning hwarning next hnext ↦ ?_⟩, ih h.2 _ _,
      fun warning hwarning next hnext ↦ ?_⟩
    · cases reach with
      | live | reported => exact .nil
      | ended exit => exact List.pairwise_singleton _ _
    · obtain ⟨offset, below, hpath⟩ := path_of_mem_warnings hnext
      have hlt : parent ++ [index] ++ [] < parent ++ [index] ++ offset :: below :=
        List.append_left_lt (List.nil_lt_cons offset below)
      rwa [List.append_nil, ← hpath, ← hself warning hwarning] at hlt
    · obtain ⟨offset, below, hoffset, hpath⟩ := path_of_mem_warningsFrom hnext
      have hfirst : ∃ above, warning.path = parent ++ index :: above := by
        rcases List.mem_append.mp hwarning with hwarn | hbelow
        · exact ⟨[], hself warning hwarn⟩
        · obtain ⟨step, above, habove⟩ := path_of_mem_warnings hbelow
          exact ⟨step :: above, by rw [habove, List.append_assoc, List.singleton_append]⟩
      obtain ⟨above, habove⟩ := hfirst
      rw [habove, hpath]
      exact List.append_left_lt (List.cons_lt_cons_iff.mpr (.inl hoffset))

private theorem ascending_warnings (block : Block) : ∀ path, Ascending (block.warnings path) := by
  induction block using forall_of_children with
  | step block ih =>
    intro path
    rw [warnings_eq]
    exact ascending_warningsFrom ih path 0 .live

/-! ## Warnings and pruning -/

private theorem map_item_pruneItems (items : List (List Block)) :
    (pruneItems items).map .item = pruneSequence (items.map .item) := by
  induction items with
  | nil => rw [pruneItems, List.map_nil, pruneSequence]
  | cons blocks rest ih =>
    rw [pruneItems, List.map_cons, List.map_cons, pruneSequence, prune, exit?, ← ih]
    split <;> rfl

private theorem children_prune (block : Block) :
    block.prune.children = pruneSequence block.children := by
  match block with
  | .leaf content => rw [prune, children, pruneSequence]
  | .container head children => rw [prune]; rfl
  | .item children => rw [prune]; rfl
  | .list ordered start items => rw [prune, children, children, map_item_pruneItems]

private theorem prune_eq_self_iff (block : Block) :
    block.prune = block ↔ pruneSequence block.children = block.children := by
  constructor
  · intro h
    rw [← children_prune, h]
  · intro h
    match block with
    | .leaf content => rw [prune]
    | .container head children => rw [prune, show pruneSequence children = children from h]
    | .item children => rw [prune, show pruneSequence children = children from h]
    | .list ordered start items =>
      rw [children, ← map_item_pruneItems] at h
      have hitem : Function.Injective Block.item := fun _ _ ↦ Block.item.inj
      rw [prune, List.map_injective_iff.mpr hitem h]

private theorem warningsFrom_ended_eq_nil_iff {exit : Exit} {blocks : List Block} :
    warningsFrom parent index (.ended exit) blocks = [] ↔ blocks = [] := by
  cases blocks with
  | nil => simp [warningsFrom]
  | cons block rest => simp [warningsFrom, Reach.warn]

/-- A sequence without warnings is one that pruning leaves as it is. -/
theorem warningsFrom_live_eq_nil_iff {blocks : List Block}
    (h : ∀ block ∈ blocks, ∀ path, block.warnings path = [] ↔ block.prune = block)
    (parent : TreePath) (index : Nat) :
    warningsFrom parent index .live blocks = [] ↔ pruneSequence blocks = blocks := by
  induction blocks generalizing index with
  | nil => simp [warningsFrom, pruneSequence]
  | cons block rest ih =>
    rw [List.forall_mem_cons] at h
    rw [warningsFrom, pruneSequence, List.cons_eq_cons, List.append_eq_nil_iff,
      List.append_eq_nil_iff, h.1]
    cases hexit : block.exit? with
    | some exit =>
      have hreach : Reach.live.after (some exit) = .ended exit := rfl
      rw [hreach, warningsFrom_ended_eq_nil_iff]
      simp [Reach.warn, eq_comm]
    | none =>
      have hreach : Reach.live.after none = .live := rfl
      rw [hreach, ih h.2]
      simp [Reach.warn]

private theorem warnings_eq_nil_iff (block : Block) :
    ∀ path, block.warnings path = [] ↔ block.prune = block := by
  induction block using forall_of_children with
  | step block ih =>
    intro path
    rw [warnings_eq, prune_eq_self_iff]
    exact warningsFrom_live_eq_nil_iff ih path 0

end Block

/-! ## Warnings on a document -/

namespace Document

variable {document : Document} {parent : TreePath} {node : Node} {warning : Warning}

/-- The warning is on the first block behind the first certain end among the children of the node at
`parent`, and names that block and that end. -/
def Warns (document : Document) (parent : TreePath) (warning : Warning) : Prop :=
  ∃ node index block exit, document.at? parent = some node ∧
    Block.Unreached node.children index block exit ∧
    warning = ⟨parent ++ [index], block.kind, exit⟩

private theorem mem_warnings_iff_warns :
    warning ∈ document.warnings ↔ ∃ parent, document.Warns parent warning := by
  have hroot := Block.mem_warningsFrom_children_iff (.root document)
    (fun child _ ↦ Block.mem_warnings_iff child) [] warning
  refine hroot.trans ⟨?_, ?_⟩
  · rintro ⟨parent, node, hnode, index, block, exit, hfound, rfl⟩
    refine ⟨parent, node, index, block, exit, hnode, Block.unreached?_eq_some_iff.mp hfound, ?_⟩
    rw [Nat.zero_add]
    rfl
  · rintro ⟨parent, node, index, block, exit, hnode, hfound, rfl⟩
    refine ⟨parent, node, hnode, index, block, exit, Block.unreached?_eq_some_iff.mpr hfound, ?_⟩
    rw [Nat.zero_add]
    rfl

/-- What a warning on one of the children of a node says is determined by the children. -/
theorem unreached?_of_path {index : Nat} (hnode : document.at? parent = some node)
    (hwarning : warning ∈ document.warnings) (hpath : warning.path = parent ++ [index]) :
    ∃ block, Block.unreached? node.children = some (index, block, warning.exit) ∧
      warning.kind = block.kind := by
  obtain ⟨above, other, place, block, exit, hother, hfound, rfl⟩ :=
    mem_warnings_iff_warns.mp hwarning
  obtain ⟨rfl, hplace⟩ := List.append_inj' hpath rfl
  obtain rfl := List.singleton_inj.mp hplace
  obtain rfl := Option.some.inj (hnode.symm.trans hother)
  exact ⟨block, Block.unreached?_eq_some_iff.mpr hfound, rfl⟩

/-- A sequence has one warning if it is ended early, and otherwise it has none. -/
theorem endsEarly_iff_existsUnique (hnode : document.at? parent = some node) :
    Block.EndsEarly node.children ↔
      ∃! warning, warning ∈ document.warnings ∧ ∃ index, warning.path = parent ++ [index] := by
  rw [← Block.isSome_unreached?_iff]
  constructor
  · intro h
    obtain ⟨⟨index, block, exit⟩, hfound⟩ := Option.isSome_iff_exists.mp h
    refine ⟨⟨parent ++ [index], block.kind, exit⟩, ⟨mem_warnings_iff_warns.mpr ⟨parent, node, index,
      block, exit, hnode, Block.unreached?_eq_some_iff.mp hfound, rfl⟩, index, rfl⟩, ?_⟩
    rintro other ⟨hother, place, hplace⟩
    obtain ⟨next, hnext, hkind⟩ := unreached?_of_path hnode hother hplace
    obtain ⟨rfl, rfl, hexit⟩ : index = place ∧ block = next ∧ exit = other.exit := by
      simpa using hfound.symm.trans hnext
    rw [← hplace, hexit, ← hkind]
  · rintro ⟨warning, ⟨hwarning, index, hpath⟩, -⟩
    obtain ⟨block, hfound, -⟩ := unreached?_of_path hnode hwarning hpath
    rw [hfound]
    rfl

private theorem warnings_eq_nil_iff_prune : document.warnings = [] ↔ document.prune = document := by
  have hsequence : document.warnings = [] ↔
      Block.pruneSequence document.children = document.children :=
    Block.warningsFrom_live_eq_nil_iff (fun block _ ↦ block.warnings_eq_nil_iff) [] 0
  refine hsequence.trans ⟨fun h ↦ ?_, fun h ↦ congrArg children h⟩
  rw [prune, h]

private theorem emit_skipping_of_prune (h : document.prune = document) (config : Config) :
    document.emit (config.skipping true) = document.emit (config.skipping false) := by
  have hbody := Block.emitSequence_prune config {} false document.children
  rw [show Block.pruneSequence document.children = document.children from
    congrArg children h] at hbody
  rw [emit, emit, hbody]

/-- **Warnings match what is dropped.** A document has one warning for each sequence of blocks in
which a block stands behind a certain end, on the first such block behind the first such end, and
the warnings are in the order of their paths. There are none exactly if pruning leaves the document
as it is, and then emission is the same program whether unreachable blocks are left out or not. -/
theorem warnings_match_prune (document : Document) :
    (∀ warning, warning ∈ document.warnings ↔ ∃ parent, document.Warns parent warning) ∧
      (∀ parent node, document.at? parent = some node →
        (Block.EndsEarly node.children ↔
          ∃! warning, warning ∈ document.warnings ∧
            ∃ index, warning.path = parent ++ [index])) ∧
      (document.warnings.Pairwise fun warning next ↦ warning.path < next.path) ∧
      (∀ warning : Warning, warning.message =
        warning.kind.name ++ " follows a " ++ warning.exit.name ++ " and is never reached") ∧
      (document.warnings = [] ↔ document.prune = document) ∧
      (document.warnings = [] → ∀ config : Config,
        document.emit { config with skipUnreachable := true } =
          document.emit { config with skipUnreachable := false }) := by
  refine ⟨fun _ ↦ mem_warnings_iff_warns, fun _ _ ↦ endsEarly_iff_existsUnique, ?_, fun _ ↦ rfl,
    warnings_eq_nil_iff_prune, fun h ↦ ?_⟩
  · exact Block.ascending_warningsFrom (fun block _ ↦ block.ascending_warnings) [] 0 .live
  · exact emit_skipping_of_prune (warnings_eq_nil_iff_prune.mp h)

end Document

end Runbook
