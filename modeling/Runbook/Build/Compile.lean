import Runbook.Build.Action
import Runbook.Check.ControlFlow
import Runbook.Lowering.Tree
import Runbook.Markdown.Emitter

/-!
# Compilation

A unit is compiled in four stages: its source is lowered to a document, the document is checked, it
is emitted as markdown, and the runtime module of its functions is rendered. The first stage that
fails ends the compilation.

A build that compilation made for itself is closed in the end, however it ends. One that was handed
over stays as it is.
-/

namespace Runbook

/-- What a source comes to. -/
inductive Tree where
  | element (root : Value)
  | document (content : Document)
deriving Repr, Inhabited

/-- What is compiled: a tree, or an action of the build that yields one and may register functions
before. -/
inductive Source (ε : Type) where
  | tree (content : Tree)
  | action (run : Build ε Tree)

/-- What a source comes to, in the build that compiles it. -/
def Source.produce {ε : Type} : Source ε → Build ε Tree
  | .tree content => pure content
  | .action run => run

structure Compilation where
  name : String
  unitId : String
  document : Document
  text : String
  runtime : Option String := none
  functions : List String := []
  warnings : List Warning := []
deriving Repr, Inhabited

inductive Stage where
  | lower
  | validate
  | emit
  | render
deriving DecidableEq, Repr, Inhabited

def Stage.name : Stage → String
  | .lower => "lower"
  | .validate => "validate"
  | .emit => "emit"
  | .render => "render"

namespace Build

variable {ε α : Type}

def atStage (stage : Stage) (action : Build ε α) : Build ε α :=
  within { stage := some stage.name } action

/-! ## Stages -/

/-- Lowers in the context of the build, whose counters go on from where they were. -/
def lowering (lower : Registry → Lower Document) : Build ε Document := fun state ↦
  let (result, counters) := (lower state.context.registry).run.run state.context.counters
  (result.mapError .lowering, { state with context := { state.context with counters } })

def lowerElement (root : Value) : Build ε Document := do
  let context ← context
  lift .registration context.ensureOpen
  let document ← lowering fun registry ↦ lowerTree registry root
  log .debug "compiler.builder"
    ("Lowered " ++ context.name ++ ": " ++ toString (document.walk.length - 1) ++ " block nodes")
  return document

/-- The document that a source is. -/
def lowerSource (source : Source ε) : Build ε Document := do
  match ← source.produce with
  | .document document => return document
  | .element root => lowerElement root

/-- Checks a document; yields its warnings. -/
def validate (document : Document) : Build ε (List Warning) := do
  let warnings := document.warnings
  log .debug "validation"
    ("Control-flow check: " ++ toString document.errors.length ++ " errors, " ++
      toString warnings.length ++ " warnings")
  lift .structural document.validate
  log .debug "compiler"
    ("Validated " ++ (← context).name ++ ": " ++ toString warnings.length ++ " warnings")
  for warning in warnings do
    log .warning "compiler" warning.text
  return warnings

def emit (document : Document) : Build ε String := do
  let (result, emitter) := Emitter.emit { config := (← context).config } document
  let text ← lift .emission result
  log .debug "emitter"
    ("Emitted " ++ toString (text.length - 1) ++ " chars, " ++ toString emitter.cache.misses ++
      " distinct staged expressions")
  log .debug "compiler"
    ("Emitted " ++ (← context).name ++ ": " ++ toString text.length ++ " characters")
  return text

/-- Renders the runtime module of the build. -/
def render : Build ε (Option String) := do
  let context ← context
  let runtime ← renderModule context.moduleTitle
  if runtime.isSome then
    log .debug "compiler"
      ("Rendered " ++ context.config.runtimeModule ++ " with " ++
        toString context.registry.size ++ " staged functions")
  return runtime

def summarize (document : Document) (warnings : List Warning) (text : String)
    (runtime : Option String) : Build ε Compilation := do
  let context ← context
  let functions := context.registry.names
  let counts := [("characters", text.length), ("functions", functions.length),
    ("warnings", warnings.length)]
  log .info "compiler" ("Compiled " ++ context.name)
    (.mapping (counts.map fun (name, count) ↦ (.text name, .int count)))
  return ⟨context.name, context.unitId, document, text, runtime, functions, warnings⟩

/-! ## Units -/

/-- All stages, one after the other. -/
def stages (source : Source ε) : Build ε Compilation := do
  let document ← atStage .lower (lowerSource source)
  let warnings ← atStage .validate (validate document)
  let text ← atStage .emit (emit document)
  let runtime ← atStage .render render
  summarize document warnings text runtime

/-- Compiles one unit in the context of the build. -/
def compile (source : Source ε) : Build ε Compilation := do
  let context ← context
  within { unitId := some context.unitId, name := some context.name } (stages source)

end Build

/-- Compiles one unit in a build of its own, which is closed in the end. -/
def compileAlone {ε : Type} (unitId : String) (config : Config) (name : String)
    (source : Source ε) (scope : Scope := {}) : Except (BuildError ε) Compilation × BuildState :=
  let (result, state) :=
    (Build.compile source).outcome { context := .create unitId config name, scope }
  (result, { state with context := state.context.close })

end Runbook
