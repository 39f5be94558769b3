import Mathlib.Data.List.Induction
import Runbook.Document.Walk

/-!
# Surroundings of a position

A path of child indices leads from the root through a chain of nodes. Rules that look at what
surrounds a node speak of that chain: its ancestors, and the sibling just before it. They are read
off the document and the path alone, without any traversal that would carry them along.

The lemmas say how each of them changes by one step down (`at?_child`, `ancestors_child`,
`previous?_child`), which is what an induction over a traversal needs.
-/

namespace Runbook

namespace Node

/-- The node that a path leads to. -/
def descend (node : Node) : TreePath → Option Node
  | [] => some node
  | index :: rest => node.children[index]?.bind fun child ↦ (Node.inner child).descend rest

/-- The nodes that a path passes before it arrives, from `node` on. -/
def trail (node : Node) : TreePath → List Node
  | [] => []
  | index :: rest =>
    node :: node.children[index]?.elim [] fun child ↦ (Node.inner child).trail rest

private theorem descend_append_singleton (node : Node) (path : TreePath) (index : Nat) :
    node.descend (path ++ [index]) =
      (node.descend path).bind fun target ↦ target.children[index]?.map Node.inner := by
  induction path generalizing node with
  | nil =>
    rw [List.nil_append, descend, descend, Option.bind_some]
    cases node.children[index]? with
    | none => rfl
    | some child => rfl
  | cons first rest ih =>
    rw [List.cons_append, descend, descend]
    cases node.children[first]? with
    | none => rfl
    | some child => exact ih (.inner child)

private theorem trail_append_singleton {node target : Node} {path : TreePath}
    (h : node.descend path = some target) (index : Nat) :
    node.trail (path ++ [index]) = node.trail path ++ [target] := by
  induction path generalizing node with
  | nil =>
    obtain rfl : node = target := Option.some.inj h
    cases hchild : node.children[index]? <;> simp [trail, hchild]
  | cons first rest ih =>
    rw [descend] at h
    rw [List.cons_append, trail, trail]
    cases hchild : node.children[first]? with
    | none => rw [hchild] at h; exact absurd h nofun
    | some child =>
      rw [hchild] at h
      rw [Option.elim_some, Option.elim_some, ih h, List.cons_append]

end Node

namespace Document

variable (document : Document)

/-- The node at a path. -/
def at? (path : TreePath) : Option Node := (Node.root document).descend path

/-- The nodes around a position, from the root inwards. -/
def ancestors (path : TreePath) : List Node := (Node.root document).trail path

/-- The sibling just before a position. -/
def previous? (path : TreePath) : Option Block :=
  match path.getLast? with
  | some (index + 1) => (document.at? path.dropLast).bind fun parent ↦ parent.children[index]?
  | _ => none

variable {document} {parent : TreePath} {node : Node} {before : List Block}

theorem at?_child {block : Block} {rest : List Block} (hat : document.at? parent = some node)
    (hchildren : node.children = before ++ block :: rest) :
    document.at? (parent ++ [before.length]) = some (.inner block) := by
  rw [at?] at hat ⊢
  rw [Node.descend_append_singleton, hat, Option.bind_some, hchildren]
  simp

theorem ancestors_child (hat : document.at? parent = some node) (index : Nat) :
    document.ancestors (parent ++ [index]) = document.ancestors parent ++ [node] :=
  Node.trail_append_singleton hat index

theorem previous?_child {blocks : List Block} (hat : document.at? parent = some node)
    (hchildren : node.children = before ++ blocks) :
    document.previous? (parent ++ [before.length]) = before.getLast? := by
  rw [previous?, List.getLast?_concat, List.dropLast_concat, hat]
  rcases List.eq_nil_or_concat before with rfl | ⟨front, last, rfl⟩
  · rfl
  · simp [hchildren]

end Document

/-! ## Loops and agents -/

/-- Of the loops around a position, one is in the same context: no agent stands between it and the
position. -/
def HeldByLoop (ancestors : List Node) : Prop :=
  ∃ outer loop inner, ancestors = outer ++ loop :: inner ∧ loop.kind = .loop ∧
    ∀ node ∈ inner, node.kind ≠ .agentSpawn

private theorem not_heldByLoop_nil : ¬HeldByLoop [] := by
  rintro ⟨outer, loop, inner, h, -⟩
  exact absurd h.symm (by simp)

private theorem heldByLoop_append_singleton (ancestors : List Node) (node : Node) :
    HeldByLoop (ancestors ++ [node]) ↔
      node.kind = .loop ∨ node.kind ≠ .agentSpawn ∧ HeldByLoop ancestors := by
  constructor
  · rintro ⟨outer, loop, inner, h, hloop, hinner⟩
    -- The last of the nodes after the loop is `node`, unless `node` is that loop.
    induction inner using List.reverseRecOn with
    | nil =>
      obtain ⟨-, hlast⟩ := List.append_inj' h rfl
      obtain rfl := List.singleton_inj.mp hlast
      exact .inl hloop
    | append_singleton front last _ =>
      rw [← List.cons_append, ← List.append_assoc] at h
      obtain ⟨hfront, hlast⟩ := List.append_inj' h rfl
      obtain rfl := List.singleton_inj.mp hlast
      refine .inr ⟨hinner _ (by simp), outer, loop, front, hfront, hloop, fun inside h ↦ ?_⟩
      exact hinner inside (List.mem_append_left _ h)
  · rintro (hloop | ⟨hagent, outer, loop, inner, rfl, hloop, hinner⟩)
    · exact ⟨ancestors, node, [], rfl, hloop, nofun⟩
    · refine ⟨outer, loop, inner ++ [node], by simp, hloop, fun inside h ↦ ?_⟩
      rcases List.mem_append.mp h with h | h
      · exact hinner inside h
      · rwa [List.mem_singleton.mp h]

/-- Whether a position is in a loop, decided from the outside inwards. -/
def heldByLoop (ancestors : List Node) : Bool :=
  ancestors.foldl (fun held node ↦ node.kind == .loop || node.kind != .agentSpawn && held) false

theorem heldByLoop_concat (ancestors : List Node) (node : Node) :
    heldByLoop (ancestors ++ [node]) =
      (node.kind == .loop || node.kind != .agentSpawn && heldByLoop ancestors) := by
  rw [heldByLoop, List.foldl_append, List.foldl_cons, List.foldl_nil, heldByLoop]

theorem heldByLoop_iff (ancestors : List Node) :
    heldByLoop ancestors = true ↔ HeldByLoop ancestors := by
  induction ancestors using List.reverseRecOn with
  | nil => exact ⟨nofun, fun h ↦ absurd h not_heldByLoop_nil⟩
  | append_singleton front last ih =>
    rw [heldByLoop_append_singleton, ← ih, heldByLoop_concat]
    simp

instance : DecidablePred HeldByLoop := fun ancestors ↦
  decidable_of_iff _ (heldByLoop_iff ancestors)

end Runbook
