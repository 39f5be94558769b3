import Runbook.Config
import Runbook.Function.Module
import Runbook.Lowering.Counter

/-!
# Build contexts

Everything that one build changes is in its context: the functions that it registered and the names
that it allocated. Builds share nothing, so one never sees the numbers or the functions of another.
-/

namespace Runbook

/-- The state of one build. -/
structure Context where
  name : String := "document"
  config : Config := {}
  unitId : String
  registry : Registry := { owner := unitId }
  counters : Counters := []
deriving Repr, Inhabited

namespace Context

/-- The name of a build; without one it is named for what it makes. -/
def nameOr (name : String) : String := if name.isEmpty then "document" else name

/-- The context of a new build. -/
def create (unitId : String) (config : Config) (name : String) : Context :=
  { name := nameOr name, config, unitId }

/-- The build is finished. -/
def closed (context : Context) : Bool := context.registry.closed

/-- Discards the functions and the counters; the context takes no further functions. -/
def close (context : Context) : Context :=
  { context with registry := context.registry.close, counters := [] }

/-- Refuses a finished build. -/
def ensureOpen (context : Context) : Except RegistrationError Unit :=
  if context.closed then .error ⟨context.name, .contextClosed⟩ else .ok ()

/-- The next name for a prefix. -/
def allocate (context : Context) (stem : String) : String × Context :=
  let (name, counters) := context.counters.allocate stem
  (name, { context with counters })

/-- A staged variable with the next name for a prefix. -/
def allocateRoot (context : Context) (stem : String) : Staged × Context :=
  let (name, context) := context.allocate stem
  (⟨name, []⟩, context)

/-- How the runtime module of the build presents itself. -/
def moduleTitle (context : Context) : ModuleTitle :=
  ⟨context.name, context.config.runtimeCommand, context.config.runtimeModule⟩

@[simp]
theorem closed_close (context : Context) : context.close.closed = true := rfl

@[simp]
theorem names_close (context : Context) : context.close.registry.names = [] := rfl

@[simp]
theorem counters_close (context : Context) : context.close.counters = [] := rfl

end Context

end Runbook
