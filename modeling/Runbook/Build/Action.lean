import Runbook.Build.Context
import Runbook.Check.Finding
import Runbook.Emission
import Runbook.Log.Record
import Runbook.Lowering.Error

/-!
# Build actions

A build action changes the context of its build and logs what it does. It may fail; what it changed
and logged until then stays. Inside a binding the scope of the log is another one, and it is the old
one again afterwards, however the action ends.
-/

namespace Runbook

/-- Why a build fails; `ε` are the errors of the source itself. -/
inductive BuildError (ε : Type) where
  /-- The source cannot be obtained. -/
  | source (error : ε)
  | registration (error : RegistrationError)
  | lowering (error : LowerError)
  | structural (finding : Finding)
  | emission (error : EmitError)
deriving Repr, Inhabited

/-- What a build action may change. -/
structure BuildState where
  context : Context
  scope : Scope := {}
  /-- What was logged, the oldest first. -/
  records : List LogRecord := []
deriving Repr, Inhabited

/-- A step of a build. -/
abbrev Build (ε : Type) := ExceptT (BuildError ε) (StateM BuildState)

namespace Build

variable {ε α : Type}

/-- The outcome of an action, and the state after it. -/
def outcome (action : Build ε α) (state : BuildState) : Except (BuildError ε) α × BuildState :=
  action.run.run state

@[simp]
theorem outcome_pure (value : α) (state : BuildState) :
    (pure value : Build ε α).outcome state = (.ok value, state) := rfl

@[simp]
theorem outcome_throw (error : BuildError ε) (state : BuildState) :
    (throw error : Build ε α).outcome state = (.error error, state) := rfl

/-- The second action starts from the state after the first, and only if the first succeeds. -/
theorem outcome_bind {β : Type} (action : Build ε α) (next : α → Build ε β) (state : BuildState) :
    (action >>= next).outcome state =
      match action.outcome state with
      | (.ok value, after) => (next value).outcome after
      | (.error error, after) => (.error error, after) := by
  change (match action state with | (result, after) => ExceptT.bindCont next result after) = _
  unfold outcome
  change _ = match action state with
    | (.ok value, after) => next value after
    | (.error error, after) => (.error error, after)
  rcases action state with ⟨result, after⟩
  cases result <;> rfl

def log (level : Level) (component message : String) (fields : Value := .null) : Build ε Unit :=
  modify fun state ↦
    let record : LogRecord :=
      { level, logger := loggerName component, message, scope := state.scope, fields }
    { state with records := state.records ++ [record] }

def context : Build ε Context := do return (← get).context

/-- Runs an action inside a binding. -/
def within (binding : Binding) (action : Build ε α) : Build ε α := fun state ↦
  let ended := action { state with scope := binding.inside state.scope }
  (ended.1, { ended.2 with scope := state.scope })

/-- The result, or the failure of a part of the build. -/
def lift {δ : Type} (wrap : δ → BuildError ε) : Except δ α → Build ε α
  | .ok value => pure value
  | .error error => throw (wrap error)

def register (registration : Registration) : Build ε Handle := do
  let (handle, registry) ← lift .registration ((← context).registry.register registration)
  modify fun state ↦ { state with context := { state.context with registry } }
  log .debug "staging" ("Staged function " ++ handle.name ++ " registered")
  return handle

/-- Renders the runtime module, if there are functions. -/
def renderModule (title : ModuleTitle) : Build ε (Option String) := do
  let registry := (← context).registry
  match registry.moduleText title with
  | none => return none
  | some text =>
    log .debug "staging.artifact"
      ("Rendered runtime module with " ++ toString registry.size ++ " functions")
    return some text

@[simp]
theorem scope_within (binding : Binding) (action : Build ε α) (state : BuildState) :
    ((within binding action).outcome state).2.scope = state.scope := rfl

end Build

end Runbook
