import Runbook.Markdown.Block

/-!
# Pruning

A block that is certain to end its sequence leaves the blocks behind it unreached. Emission can
leave those out while it writes: it stops each sequence as soon as a certain end has been written.
Pruning is the same as a transformation of documents: it cuts every sequence at every level after
its first certain end, once and for all, and knows nothing of texts.

The two agree (`Document.emit_skipping_eq_emit_prune`). What the agreement rests on is that pruning
inside a block does not change whether that block is a certain end (`Block.exit?_prune`), nor what
the layout and the else-branches around it look at, its kind and its role.
-/

namespace Runbook

/-! ## The transformation -/

namespace Block

mutual
/-- The block with every sequence below it cut after its first certain end. -/
def prune : Block → Block
  | .leaf content => .leaf content
  | .container head children => .container head (pruneSequence children)
  | .item children => .item (pruneSequence children)
  | .list ordered start items => .list ordered start (pruneItems items)

/-- The blocks up to the first certain end, each of them pruned. -/
def pruneSequence : List Block → List Block
  | [] => []
  | block :: rest => prune block :: if block.exit?.isSome then [] else pruneSequence rest

/-- The items up to the first one with a certain end, each of them pruned. -/
def pruneItems : List (List Block) → List (List Block)
  | [] => []
  | blocks :: rest =>
    pruneSequence blocks :: if (firstExit? blocks).isSome then [] else pruneItems rest
end

end Block

/-- The document without the blocks that are never reached. -/
def Document.prune (document : Document) : Document :=
  { document with children := Block.pruneSequence document.children }

/-! ## What pruning keeps -/

namespace Block

@[simp]
theorem kind_prune (block : Block) : block.prune.kind = block.kind := by
  cases block <;> rw [prune] <;> rfl

@[simp]
theorem role_prune (block : Block) : block.prune.role = block.role := by
  cases block <;> rw [prune] <;> rfl

-- The three statements go by the recursion that `prune` and `exit?` share. In a sequence the cut
-- happens only where the answer has already been found.
mutual
/-- A block is as certain an end as it was. -/
@[simp]
theorem exit?_prune (block : Block) : block.prune.exit? = block.exit? := by
  match block with
  | .leaf content => rw [prune]
  | .container head children => rw [prune, exit?, exit?, firstExit?_pruneSequence children]
  | .item children => rw [prune, exit?, exit?, firstExit?_pruneSequence children]
  | .list ordered start items => rw [prune, exit?, exit?, firstItemExit?_pruneItems items]

@[simp]
theorem firstExit?_pruneSequence (blocks : List Block) :
    firstExit? (pruneSequence blocks) = firstExit? blocks := by
  match blocks with
  | [] => rw [pruneSequence]
  | block :: rest =>
    rw [pruneSequence, firstExit?, firstExit?, exit?_prune block]
    cases hexit : block.exit? with
    | some found => rfl
    | none => exact firstExit?_pruneSequence rest

@[simp]
theorem firstItemExit?_pruneItems (items : List (List Block)) :
    firstItemExit? (pruneItems items) = firstItemExit? items := by
  match items with
  | [] => rw [pruneItems]
  | blocks :: rest =>
    rw [pruneItems, firstItemExit?, firstItemExit?, firstExit?_pruneSequence blocks]
    cases hexit : firstExit? blocks with
    | some found => rfl
    | none => exact firstItemExit?_pruneItems rest
end

end Block

/-! ## Emission of pruned documents

Only sequences look at whether unreachable blocks are left out. Leaves and the frames of containers
are written from the other settings, so there the two configurations need no pruning to agree. -/

/-- The configuration with unreachable blocks left out or kept. -/
def Config.skipping (config : Config) (skip : Bool) : Config :=
  { config with skipUnreachable := skip }

@[simp]
theorem Config.skipUnreachable_skipping (config : Config) (skip : Bool) :
    (config.skipping skip).skipUnreachable = skip := rfl

namespace Markdown

variable (config : Config) (skip : Bool)

private theorem inputPart_skipping (value : Value) :
    inputPart (config.skipping skip) value = inputPart config value := by
  cases value <;> rfl

private theorem inputSections_skipping (entries : List (Value × Value)) :
    inputSections (config.skipping skip) entries = inputSections config entries := by
  induction entries with
  | nil => rfl
  | cons entry rest ih => rw [inputSections, inputSections, ih, inputPart_skipping]

private theorem inputText_skipping (value : Value) :
    inputText (config.skipping skip) value = inputText config value := by
  cases value with
  | mapping entries => rw [inputText, inputText, inputSections_skipping]
  | _ => rfl

private theorem spawnPrompt_skipping (spawn : Spawn) :
    spawnPrompt (config.skipping skip) spawn = spawnPrompt config spawn := by
  rw [spawnPrompt, spawnPrompt, inputText_skipping]

end Markdown

private theorem Leaf.emit_skipping (config : Config) (skip : Bool) (state : EmitState)
    (content : Leaf) :
    content.emit (config.skipping skip) state = content.emit config state := by
  cases content <;> rfl

private theorem Container.frame_skipping (config : Config) (skip : Bool) (state : EmitState)
    (head : Container) : head.frame (config.skipping skip) state = head.frame config state := by
  cases head with
  | agentSpawn spawn => rw [frame, frame, Markdown.spawnPrompt_skipping]
  | _ => rfl

namespace Block

-- One statement for each of the three mutually recursive writers. A sequence that is cut and one
-- that stops on its own both end with the same block; before it, the flag on the previous sibling
-- and the number of an item are passed on alike.
mutual
theorem emit_prune (config : Config) (state : EmitState) (block : Block) :
    block.prune.emit (config.skipping false) state = block.emit (config.skipping true) state := by
  match block with
  | .leaf content => rw [prune, emit, emit, Leaf.emit_skipping, Leaf.emit_skipping]
  | .container head children =>
    rw [prune, emit, emit, Container.frame_skipping, Container.frame_skipping]
    congr 1
    funext frame
    rw [emitSequence_prune config frame.state false children]
  | .item children => rw [prune, emit, emit, emitSequence_prune config _ false children]
  | .list ordered start items =>
    rw [prune, emit, emit, emitItems_prune config _ ordered start items]

theorem emitSequence_prune (config : Config) (state : EmitState) (afterConditional : Bool)
    (blocks : List Block) :
    emitSequence (config.skipping false) state afterConditional (pruneSequence blocks) =
      emitSequence (config.skipping true) state afterConditional blocks := by
  match blocks with
  | [] => rw [pruneSequence, emitSequence, emitSequence]
  | block :: rest =>
    rw [pruneSequence, emitSequence, emitSequence, kind_prune, role_prune,
      emit_prune config state block]
    cases hexit : block.exit? with
    | some found => simp [emitSequence]
    | none => simp [emitSequence_prune config state _ rest]

theorem emitItems_prune (config : Config) (state : EmitState) (ordered : Bool) (number : Nat)
    (items : List (List Block)) :
    emitItems (config.skipping false) state ordered number (pruneItems items) =
      emitItems (config.skipping true) state ordered number items := by
  match items with
  | [] => rw [pruneItems, emitItems, emitItems]
  | blocks :: rest =>
    rw [pruneItems, emitItems, emitItems, emitSequence_prune config state false blocks]
    cases hexit : firstExit? blocks with
    | some found => simp [emitItems]
    | none => simp [emitItems_prune config state ordered _ rest, hexit]
end

end Block

/-- **Leaving out is pruning.** Emission that leaves unreachable blocks out is the emission of the
pruned document that leaves nothing out: the same program, so it asks for the same expressions in
the same order and ends with the same text or the same error, whatever answers it gets. -/
theorem Document.emit_skipping_eq_emit_prune (config : Config) (document : Document) :
    document.emit { config with skipUnreachable := true } =
      document.prune.emit { config with skipUnreachable := false } := by
  have hbody : Block.emitSequence (config.skipping false) {} false document.prune.children =
      Block.emitSequence (config.skipping true) {} false document.children :=
    Block.emitSequence_prune config {} false document.children
  change document.emit (config.skipping true) = document.prune.emit (config.skipping false)
  rw [emit, emit, hbody]
  rfl

end Runbook
