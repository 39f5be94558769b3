import Runbook.Document.Slot
import Runbook.Proofs.Prune

/-!
# Execution of documents

What a runbook means to whoever executes it. Blocks run in order; a break leaves the innermost loop
around it and an early end leaves the command. All that the document leaves open is up to an
environment: which branches are taken, which agents are started, how large a bound turns out to be
that is only known by then, and how many of the allowed rounds a loop makes.

## The environment

An environment has a state of a type of its own. It sees every visit and makes every choice from
that state, so the state may hold a list of choices fixed beforehand, the whole history of the run,
or nothing at all. One environment and one initial state are one resolution of all choices.

An environment is shown a block without what is below it. Otherwise it could choose differently for
a document and for its pruned form just by looking ahead at blocks that are never reached.

## What is proved

No run of a certain end completes (`Block.run_ending_ne_completed`). Hence nothing behind it runs,
and pruning changes no run at all (`Document.run_prune_eq_run`).
-/

namespace Runbook

/-! ## Runs -/

/-- How a run ends: it comes to its end, or it is left by a break or an early end. -/
inductive Ending where
  | completed
  | exited (exit : Exit)
deriving DecidableEq, Repr, Inhabited

/-- A block without what is below it. -/
def Block.bare : Block → Block
  | .leaf content => .leaf content
  | .container head _ => .container head []
  | .item _ => .item []
  | .list ordered start _ => .list ordered start []

/-- What happens when blocks run. -/
structure Run (σ : Type) where
  /-- The blocks that were visited, in order, and where they stand. -/
  visits : List (TreePath × Block)
  ending : Ending
  /-- The state of the environment afterwards. -/
  state : σ

namespace Run

variable {σ : Type}

/-- Nothing runs. -/
def idle (state : σ) : Run σ := ⟨[], .completed, state⟩

/-- Goes on after a run, unless it was left. -/
def andThen (first : Run σ) (next : σ → Run σ) : Run σ :=
  match first.ending with
  | .completed =>
    let second := next first.state
    { second with visits := first.visits ++ second.visits }
  | .exited _ => first

/-- The run of a loop whose body ran so: a break ends with the loop. -/
def stopBreak (run : Run σ) : Run σ :=
  match run.ending with
  | .exited .breakLoop => { run with ending := .completed }
  | _ => run

/-- The run of a context of its own, which cannot end the one around it. -/
def contained (run : Run σ) : Run σ := { run with ending := .completed }

private theorem ending_andThen_eq_completed {first : Run σ} {next : σ → Run σ}
    (h : (first.andThen next).ending = .completed) :
    first.ending = .completed ∧ (next first.state).ending = .completed := by
  rw [andThen] at h
  cases hfirst : first.ending with
  | completed => rw [hfirst] at h; exact ⟨rfl, h⟩
  | exited exit => rw [hfirst] at h; exact absurd (hfirst.symm.trans h) nofun

/-- It makes no difference what would come after a run that was left. -/
theorem andThen_irrel {first : Run σ} (h : first.ending ≠ .completed) (next other : σ → Run σ) :
    first.andThen next = first.andThen other := by
  rw [andThen, andThen]
  cases hfirst : first.ending with
  | completed => exact absurd hfirst h
  | exited exit => rfl

end Run

/-! ## Environments -/

/-- Whoever executes a document. Blocks are shown without what is below them. -/
structure Environment (σ : Type) where
  /-- Takes note of a visit. -/
  visit : TreePath → Block → σ → σ
  /-- Whether the body of a branch is run, or an agent is started. -/
  enters : TreePath → Container → σ → Bool × σ
  /-- How often a loop may run if the document does not say. -/
  bound : TreePath → Value → σ → Nat × σ
  /-- Whether the body of a loop is run once more. -/
  again : TreePath → Container → σ → Bool × σ

namespace Environment

variable {σ : Type} (env : Environment σ)

/-- The visit of a block before anything below it runs. -/
def visiting (path : TreePath) (block : Block) (state : σ) : Run σ :=
  ⟨[(path, block.bare)], .completed, env.visit path block.bare state⟩

/-- How often the body of a loop may run. -/
def limit (path : TreePath) (bound : Value) (state : σ) : Nat × σ :=
  match bound.bound? with
  | some (.count times) => (times, state)
  | _ => env.bound path bound state

/-- Runs a body as long as the environment goes on, at most `limit` times. -/
def rounds (path : TreePath) (head : Container) (body : σ → Run σ) : Nat → σ → Run σ
  | 0, state => .idle state
  | limit + 1, state =>
    let choice := env.again path head state
    if choice.1 then (body choice.2).andThen (rounds path head body limit) else .idle choice.2

/-- Runs a body if the environment decides so. -/
def choosing (path : TreePath) (head : Container) (body : σ → Run σ) (state : σ) : Run σ :=
  let choice := env.enters path head state
  if choice.1 then body choice.2 else .idle choice.2

/-- Runs a container whose children run as `body`. -/
def conduct (path : TreePath) (head : Container) (body : σ → Run σ) (state : σ) : Run σ :=
  match head with
  | .blockquote | .xmlBlock .. | .group | .indent _ | .executionReference .. | .step .. =>
    body state
  | .conditional _ | .elseBranch | .statusBranch .. => env.choosing path head body state
  | .loop bound _ =>
    let most := env.limit path bound state
    (env.rounds path head body most.1 most.2).stopBreak
  | .agentSpawn _ => (env.choosing path head body state).contained

private theorem conduct_of_isSequential {head : Container} (h : head.isSequential = true)
    (path : TreePath) (body : σ → Run σ) (state : σ) :
    env.conduct path head body state = body state := by
  cases head with
  | conditional | elseBranch | statusBranch | loop | agentSpawn => exact absurd h nofun
  | _ => rfl

/-- The environment that follows a list of choices; when there are no more, it does nothing. -/
def scripted : Environment (List Bool) where
  visit _ _ script := script
  enters _ _ script := (script.headD false, script.tail)
  bound _ _ script := (script.length, script)
  again _ _ script := (script.headD false, script.tail)

end Environment

/-! ## Blocks -/

/-- How the run of a leaf ends. -/
def Leaf.ending : Leaf → Ending
  | .breakLoop _ => .exited .breakLoop
  | .endCommand .. => .exited .endCommand
  | _ => .completed

namespace Block

variable {σ : Type} (env : Environment σ)

mutual
/-- Runs a block that stands at `path`. -/
def run (path : TreePath) : Block → σ → Run σ
  | .leaf content => fun state ↦
    (env.visiting path (.leaf content) state).andThen fun state ↦ ⟨[], content.ending, state⟩
  | .container head children => fun state ↦
    (env.visiting path (.container head children) state).andThen
      (env.conduct path head (runSequence path 0 children))
  | .item children => fun state ↦
    (env.visiting path (.item children) state).andThen (runSequence path 0 children)
  | .list ordered start items => fun state ↦
    (env.visiting path (.list ordered start items) state).andThen (runItems path 0 items)

/-- Runs the children of `parent` from the given index on, one after the other. -/
def runSequence (parent : TreePath) (index : Nat) : List Block → σ → Run σ
  | [] => .idle
  | block :: rest => fun state ↦
    (run (parent ++ [index]) block state).andThen (runSequence parent (index + 1) rest)

/-- Runs the items of the list at `parent` from the given index on, one after the other. -/
def runItems (parent : TreePath) (index : Nat) : List (List Block) → σ → Run σ
  | [] => .idle
  | blocks :: rest => fun state ↦
    ((env.visiting (parent ++ [index]) (.item blocks) state).andThen
      (runSequence (parent ++ [index]) 0 blocks)).andThen (runItems parent (index + 1) rest)
end

end Block

/-- Runs a document. -/
def Document.run {σ : Type} (env : Environment σ) (document : Document) : σ → Run σ :=
  Block.runSequence env [] 0 document.children

/-! ## Certain ends never complete -/

private theorem Leaf.ending_ne_completed {content : Leaf} (hexit : content.exit?.isSome = true) :
    content.ending ≠ .completed := by
  cases content with
  | breakLoop message => exact nofun
  | endCommand status message => exact nofun
  | _ => simp [exit?] at hexit

namespace Block

variable {σ : Type} (env : Environment σ)

mutual
/-- No run of a block that is a certain end completes, whatever the environment chooses. -/
theorem run_ending_ne_completed (path : TreePath) (block : Block) (state : σ)
    (hexit : block.exit?.isSome = true) : (block.run env path state).ending ≠ .completed := by
  intro hcompleted
  match block with
  | .leaf content =>
    rw [exit?] at hexit
    rw [run] at hcompleted
    exact Leaf.ending_ne_completed hexit (Run.ending_andThen_eq_completed hcompleted).2
  | .container head children =>
    rw [exit?] at hexit
    rw [run] at hcompleted
    have hbody := (Run.ending_andThen_eq_completed hcompleted).2
    -- Branches, loops and agents let no end through: only sequential containers are left.
    split at hexit
    · next hsequential =>
      rw [env.conduct_of_isSequential hsequential] at hbody
      exact runSequence_ending_ne_completed path 0 children _ hexit hbody
    · exact absurd hexit nofun
  | .item children =>
    rw [exit?] at hexit
    rw [run] at hcompleted
    exact runSequence_ending_ne_completed path 0 children _ hexit
      (Run.ending_andThen_eq_completed hcompleted).2
  | .list ordered start items =>
    rw [exit?] at hexit
    rw [run] at hcompleted
    exact runItems_ending_ne_completed path 0 items _ hexit
      (Run.ending_andThen_eq_completed hcompleted).2

theorem runSequence_ending_ne_completed (parent : TreePath) (index : Nat) (blocks : List Block)
    (state : σ) (hexit : (firstExit? blocks).isSome = true) :
    (runSequence env parent index blocks state).ending ≠ .completed := by
  intro hcompleted
  match blocks with
  | [] => rw [firstExit?] at hexit; exact absurd hexit nofun
  | block :: rest =>
    rw [runSequence] at hcompleted
    obtain ⟨hblock, hrest⟩ := Run.ending_andThen_eq_completed hcompleted
    rw [firstExit?] at hexit
    cases hfound : block.exit? with
    | some found =>
      exact run_ending_ne_completed (parent ++ [index]) block state (by rw [hfound]; rfl) hblock
    | none =>
      rw [hfound] at hexit
      exact runSequence_ending_ne_completed parent (index + 1) rest _ hexit hrest

theorem runItems_ending_ne_completed (parent : TreePath) (index : Nat)
    (items : List (List Block)) (state : σ) (hexit : (firstItemExit? items).isSome = true) :
    (runItems env parent index items state).ending ≠ .completed := by
  intro hcompleted
  match items with
  | [] => rw [firstItemExit?] at hexit; exact absurd hexit nofun
  | blocks :: rest =>
    rw [runItems] at hcompleted
    obtain ⟨hitem, hrest⟩ := Run.ending_andThen_eq_completed hcompleted
    have hblocks := (Run.ending_andThen_eq_completed hitem).2
    rw [firstItemExit?] at hexit
    cases hfound : firstExit? blocks with
    | some found =>
      exact runSequence_ending_ne_completed (parent ++ [index]) 0 blocks _
        (by rw [hfound]; rfl) hblocks
    | none =>
      rw [hfound] at hexit
      exact runItems_ending_ne_completed parent (index + 1) rest _ hexit hrest
end

/-! ## Runs of pruned blocks -/

@[simp]
theorem bare_prune (block : Block) : block.prune.bare = block.bare := by
  cases block <;> rw [prune] <;> rfl

private theorem visiting_prune (path : TreePath) (block : Block) :
    env.visiting path block.prune = env.visiting path block := by
  funext state
  rw [Environment.visiting, Environment.visiting, bare_prune]

mutual
theorem run_prune (path : TreePath) (block : Block) :
    block.prune.run env path = block.run env path := by
  have hvisit := visiting_prune env path block
  match block with
  | .leaf content => rw [prune]
  | .container head children =>
    rw [prune] at hvisit ⊢
    rw [run, run, hvisit, runSequence_prune path 0 children]
  | .item children =>
    rw [prune] at hvisit ⊢
    rw [run, run, hvisit, runSequence_prune path 0 children]
  | .list ordered start items =>
    rw [prune] at hvisit ⊢
    rw [run, run, hvisit, runItems_prune path 0 items]

theorem runSequence_prune (parent : TreePath) (index : Nat) (blocks : List Block) :
    runSequence env parent index (pruneSequence blocks) = runSequence env parent index blocks := by
  match blocks with
  | [] => rw [pruneSequence]
  | block :: rest =>
    funext state
    rw [pruneSequence, runSequence, runSequence, run_prune (parent ++ [index]) block]
    split
    · next hexit =>
      exact Run.andThen_irrel
        (run_ending_ne_completed env (parent ++ [index]) block state hexit) _ _
    · rw [runSequence_prune parent (index + 1) rest]

theorem runItems_prune (parent : TreePath) (index : Nat) (items : List (List Block)) :
    runItems env parent index (pruneItems items) = runItems env parent index items := by
  match items with
  | [] => rw [pruneItems]
  | blocks :: rest =>
    funext state
    have hvisit := visiting_prune env (parent ++ [index]) (.item blocks)
    rw [prune] at hvisit
    rw [pruneItems, runItems, runItems, hvisit, runSequence_prune (parent ++ [index]) 0 blocks]
    split
    · next hexit =>
      have hleft : ((env.visiting (parent ++ [index]) (.item blocks) state).andThen
          (runSequence env (parent ++ [index]) 0 blocks)).ending ≠ .completed := fun hcompleted ↦
        runSequence_ending_ne_completed env (parent ++ [index]) 0 blocks _ hexit
          (Run.ending_andThen_eq_completed hcompleted).2
      exact Run.andThen_irrel hleft _ _
    · rw [runItems_prune parent (index + 1) rest]
end

end Block

/-- **Pruning preserves every execution.** Whatever the environment chooses, the pruned document
makes the same visits in the same order, ends the same way and leaves the environment in the same
state; and no block that is a certain end ever completes, wherever it stands. -/
theorem Document.run_prune_eq_run {σ : Type} (env : Environment σ) :
    (∀ (document : Document) (state : σ), document.prune.run env state = document.run env state) ∧
      ∀ (path : TreePath) (block : Block) (state : σ), block.exit?.isSome = true →
        (block.run env path state).ending ≠ .completed := by
  refine ⟨fun document state ↦ ?_, fun path block state ↦
    Block.run_ending_ne_completed env path block state⟩
  exact congrFun (Block.runSequence_prune env [] 0 document.children) state

/-- A step in a loop that breaks or, if that branch is not taken, ends the command: here the first
round ends it. What follows the step is pruned, and what follows the loop is not. -/
theorem Document.run_prune_eq_run_scripted :
    let branch : Block := .container (.conditional (.staged ⟨"DONE", []⟩)) [.leaf (.breakLoop none)]
    let step : Block :=
      .container (.step "1" "Stop" .heading) [branch, .leaf (.endCommand none none)]
    let loop : Block := .container (.loop (.int 2) .null) [step, .leaf .thematicBreak]
    let document : Document := { children := [loop, .leaf .thematicBreak] }
    step.exit?.isSome = true ∧
      document.prune.run .scripted [true, false] = document.run .scripted [true, false] ∧
      (step.run .scripted [0, 0] [false]).ending ≠ .completed := by
  intro branch step loop document
  have hexit : step.exit?.isSome = true := by decide
  obtain ⟨hrun, hending⟩ := Document.run_prune_eq_run .scripted
  exact ⟨hexit, hrun document [true, false], hending [0, 0] step [false] hexit⟩

end Runbook
