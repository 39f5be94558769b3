import Runbook.Build.Compile

/-!
# Builds in steps

A process is a build action that is cut into steps. Run without interruption it is the action again
(`Process.run`), and running commutes with sequencing and with bindings. So the process that enters
and leaves the stages of a compilation in steps of their own, with the steps of the source inside
the first, runs like the compilation (`Process.run_compile`).
-/

namespace Runbook

/-! ## Processes -/

/-- A build action that is cut into steps. Other builds may go on between any two of them. A step
changes the state of its build, and what it finds there decides how the process goes on. -/
inductive Process (ε α : Type) where
  | ended (result : Except (BuildError ε) α)
  | step (advance : BuildState → BuildState) (next : BuildState → Process ε α)

namespace Process

variable {ε α β : Type}

/-- All steps one after the other. -/
def run : Process ε α → Build ε α
  | .ended result => fun state ↦ (result, state)
  | .step advance next => fun state ↦ (next state).run (advance state)

/-- The number of steps that are left, if nobody else changes the state. -/
def stepsFrom : Process ε α → BuildState → Nat
  | .ended _, _ => 0
  | .step advance next, state => (next state).stepsFrom (advance state) + 1

/-- A build action as a single step. -/
def atomic (action : Build ε α) : Process ε α :=
  .step (fun state ↦ (action.outcome state).2) fun state ↦ .ended (action.outcome state).1

/-- The second process follows the first if that ends well. -/
protected def bind : Process ε α → (α → Process ε β) → Process ε β
  | .ended (.ok value), continuation => continuation value
  | .ended (.error error), _ => .ended (.error error)
  | .step advance next, continuation => .step advance fun state ↦ (next state).bind continuation

instance : Monad (Process ε) where
  pure value := .ended (.ok value)
  bind := Process.bind

/-- One more step, however the process ends. -/
def always (cleanup : BuildState → BuildState) : Process ε α → Process ε α
  | .ended result => .step cleanup fun _ ↦ .ended result
  | .step advance next => .step advance fun state ↦ (next state).always cleanup

/-- The process inside a binding, which is entered and left in steps of their own. -/
def within (binding : Binding) (process : Process ε α) : Process ε α :=
  .step (fun state ↦ { state with scope := binding.inside state.scope }) fun outer ↦
    process.always fun state ↦ { state with scope := outer.scope }

private theorem run_atomic (action : Build ε α) : (atomic action).run = action := rfl

theorem run_bind (process : Process ε α) (next : α → Process ε β) :
    (process >>= next).run = process.run >>= fun value ↦ (next value).run := by
  induction process with
  | ended result =>
    cases result with
    | ok value => rfl
    | error error => rfl
  | step advance rest ih =>
    funext state
    exact congrFun (ih state) (advance state)

theorem run_always (cleanup : BuildState → BuildState) (process : Process ε α)
    (state : BuildState) :
    (process.always cleanup).run state =
      ((process.run state).1, cleanup (process.run state).2) := by
  induction process generalizing state with
  | ended result => rfl
  | step advance next ih => exact ih state (advance state)

private theorem run_within (binding : Binding) (process : Process ε α) :
    (process.within binding).run = Build.within binding process.run := by
  funext state
  exact run_always _ process _

theorem stepsFrom_always (cleanup : BuildState → BuildState) (process : Process ε α)
    (state : BuildState) :
    (process.always cleanup).stepsFrom state = process.stepsFrom state + 1 := by
  induction process generalizing state with
  | ended result => rfl
  | step advance next ih => exact congrArg (· + 1) (ih state (advance state))

/-! ## The process of a compilation -/

/-- Runs a stage. -/
def atStage (stage : Stage) (process : Process ε α) : Process ε α :=
  process.within { stage := some stage.name }

/-- Obtains a tree and lowers it. -/
def lowerSource (program : Process ε Tree) : Process ε Document := do
  match ← program with
  | .document document => return document
  | .element root => atomic (Build.lowerElement root)

/-- All stages, one after the other. -/
def stages (program : Process ε Tree) : Process ε Compilation := do
  let document ← atStage .lower (lowerSource program)
  let warnings ← atStage .validate (atomic (Build.validate document))
  let text ← atStage .emit (atomic (Build.emit document))
  let runtime ← atStage .render (atomic Build.render)
  atomic (Build.summarize document warnings text runtime)

/-- Compiles one unit in the context of the build. -/
def compile (program : Process ε Tree) : Process ε Compilation := do
  let context ← atomic Build.context
  within { unitId := some context.unitId, name := some context.name } (stages program)

private theorem run_atStage (stage : Stage) (process : Process ε α) :
    (process.atStage stage).run = Build.atStage stage process.run :=
  run_within _ _

private theorem run_lowerSource {program : Process ε Tree} {source : Source ε}
    (h : program.run = source.produce) : (lowerSource program).run = Build.lowerSource source := by
  rw [lowerSource, run_bind, h]
  unfold Build.lowerSource
  congr 1
  funext tree
  cases tree <;> rfl

private theorem run_stages {program : Process ε Tree} {source : Source ε}
    (h : program.run = source.produce) : (stages program).run = Build.stages source := by
  simp only [stages, run_bind, run_atStage, run_atomic, run_lowerSource h]
  rfl

theorem run_compile {program : Process ε Tree} {source : Source ε}
    (h : program.run = source.produce) : (compile program).run = Build.compile source := by
  simp only [compile, run_bind, run_atomic, run_within, run_stages h]
  rfl

end Process

end Runbook
