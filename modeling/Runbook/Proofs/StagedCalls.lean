import Runbook.Proofs.ModuleLayout
import Runbook.Proofs.RegistrationOrder
import Runbook.Proofs.Stages

/-!
# Staged calls of a compiled unit

A document calls the functions of its runtime module by name. That every name is there takes four
parts of a compilation together: the source registers functions, lowering resolves each call against
the functions that are registered by then, the later stages leave them alone, and the runtime module
has a definition and a table entry for each of them.

The source of a unit may do anything with its build that comes down to registrations, and it may
close it (`Registry.Becomes`). A closed build lowers nothing, so the functions of a unit that was
compiled are those of its registrations.
-/

namespace Runbook

/-! ## Registries that grow -/

namespace Registry

variable {registry next last : Registry}

/-- The second registry is what registrations make of the first, or the first one closed. -/
def Becomes (registry next : Registry) : Prop :=
  next = registry.close ∨ ∃ registrations, registry.registerAll registrations = .ok next

/-- The registry comes from an empty one. -/
def IsBuilt (registry : Registry) : Prop := Becomes { owner := registry.owner } registry

theorem Becomes.refl (registry : Registry) : registry.Becomes registry := .inr ⟨[], rfl⟩

private theorem Becomes.of_register {registration : Registration} {handle : Handle}
    (h : registry.register registration = .ok (handle, next)) : registry.Becomes next := by
  refine .inr ⟨[registration], ?_⟩
  rw [registerAll, h]
  rfl

private theorem registerAll_append {registrations others : List Registration}
    (h : registry.registerAll registrations = .ok next)
    (hothers : next.registerAll others = .ok last) :
    registry.registerAll (registrations ++ others) = .ok last := by
  induction registrations generalizing registry with
  | nil =>
    obtain rfl := Except.ok.inj h
    exact hothers
  | cons registration rest ih =>
    obtain ⟨made, hmade, hrest⟩ := bind_eq_ok_iff.mp h
    rw [List.cons_append, registerAll, hmade]
    exact ih hrest

private theorem registerAll_of_closed {registrations : List Registration}
    (hclosed : registry.closed = true) (h : registry.registerAll registrations = .ok next) :
    next = registry := by
  cases registrations with
  | nil => exact (Except.ok.inj h).symm
  | cons registration rest =>
    rw [registerAll, register_of_closed hclosed] at h
    cases h

private theorem owner_of_registerAll {registrations : List Registration}
    (h : registry.registerAll registrations = .ok next) : next.owner = registry.owner := by
  obtain ⟨handles, -, -, rfl⟩ := registerAll_eq_ok_iff.mp h
  rfl

theorem Becomes.trans (h : registry.Becomes next) (hnext : next.Becomes last) :
    registry.Becomes last := by
  rcases h with rfl | ⟨registrations, h⟩
  · -- Nothing is registered any more.
    rcases hnext with rfl | ⟨others, hothers⟩
    · exact .inl rfl
    · exact .inl (registerAll_of_closed rfl hothers)
  · rcases hnext with rfl | ⟨others, hothers⟩
    · refine .inl ?_
      rw [close, close, owner_of_registerAll h]
    · exact .inr ⟨registrations ++ others, registerAll_append h hothers⟩

/-- An open registry is what its registrations made. -/
theorem Becomes.exists_registerAll (h : registry.Becomes next) (hopen : next.closed = false) :
    ∃ registrations, registry.registerAll registrations = .ok next := by
  rcases h with rfl | h
  · cases hopen
  · exact h

end Registry

/-! ## Actions that register -/

namespace Build

variable {ε α β : Type}

/-- The action only registers functions, or closes the build, however it ends. -/
def Registers (action : Build ε α) : Prop :=
  ∀ state : BuildState, state.context.registry.Becomes (action.outcome state).2.context.registry

private theorem registers_pure (value : α) : (pure value : Build ε α).Registers :=
  fun _ ↦ .refl _

private theorem registers_register (registration : Registration) :
    (register registration : Build ε Handle).Registers := by
  intro state
  cases h : state.context.registry.register registration with
  | error error =>
    rw [outcome_register_of_error h]
    exact .refl _
  | ok made =>
    obtain ⟨after, houtcome, hafter⟩ := outcome_register_of_ok (ε := ε) h
    rw [houtcome, hafter]
    exact .of_register h

theorem Registers.bind {action : Build ε α} {next : α → Build ε β} (h : action.Registers)
    (hnext : ∀ value, (next value).Registers) : (action >>= next).Registers := by
  intro state
  have hfirst := h state
  rw [outcome_bind]
  generalize action.outcome state = ended at hfirst ⊢
  obtain ⟨result, between⟩ := ended
  cases result with
  | error error => exact hfirst
  | ok value => exact hfirst.trans (hnext value between)

end Build

/-! ## Functions of a compiled unit -/

/-- There is a runtime module, and it has a function of the registry: the definition of the function
is a section of the module, and the table has exactly one entry for its name. Nothing else in the
module is bound to the name of the table. -/
structure Compilation.Provides (result : Compilation) (registry : Registry) (handle : Handle) :
    Prop where
  text : ∃ text, result.runtime = some text ∧ Text.HasSection handle.source text ∧
    Text.HasSection registry.tableSection text
  table : ∀ statement ∈ registry.statements, statement.name = "REGISTRY" →
    statement.text = registry.tableSection
  entry : (Text.lines registry.tableSection).filter (Text.startsWith (entryKey handle.name)) =
    [Registry.tableLine handle]

namespace Registry

variable {registry : Registry} {handle : Handle}

/-- The module of consistent functions has each of them. -/
theorem IsConsistent.provides (h : registry.IsConsistent) (hmem : handle ∈ registry.functions)
    {result : Compilation} {title : ModuleTitle}
    (hruntime : result.runtime = registry.moduleText title) : result.Provides registry handle := by
  have hsome : registry.moduleText title = some
      (Text.join "\n\n\n" (registry.moduleSections title) ++ "\n") := by
    rw [moduleText, if_neg]
    rw [List.isEmpty_iff]
    exact List.ne_nil_of_mem hmem
  obtain ⟨hsource, htable⟩ := hasSection_of_moduleText hsome
  constructor
  · exact ⟨_, hruntime.trans hsome, hsource handle hmem, htable⟩
  · exact fun statement ↦ h.text_of_registry
  · exact h.filter_lines_tableSection hmem

/-- Functions that were registered one after the other are those of the registrations. -/
theorem registerAll_describes {owner : String} {registrations : List Registration}
    (h : registerAll { owner } registrations = .ok registry) :
    List.Forall₂ (Registration.Describes owner) registrations registry.functions := by
  obtain ⟨handles, hhandles, -, rfl⟩ := registerAll_eq_ok_iff.mp h
  exact hhandles.imp fun _ _ ↦ describes_of_handleFor

private theorem names_eq_of_describes {owner : String} {registrations : List Registration}
    {handles : List Handle}
    (h : List.Forall₂ (Registration.Describes owner) registrations handles) :
    handles.map Handle.name = registrations.map Registration.name := by
  induction h with
  | nil => rfl
  | cons hdescribes _ ih => rw [List.map_cons, List.map_cons, hdescribes.name, ih]

end Registry

namespace Source

variable {ε : Type}

/-- The source is a tree of elements, or an action that registers functions and yields one. -/
inductive YieldsElements : Source ε → Prop
  | tree (root : Value) : YieldsElements (.tree (.element root))
  | action {run : Build ε Tree} (registers : run.Registers)
      (element : ∀ state between tree, run.outcome state = (.ok tree, between) →
        ∃ root, tree = .element root) : YieldsElements (.action run)

/-- How a source is compiled: in a build that is handed over, or in one of its own. The first state
is that at the start. -/
inductive Compiles (source : Source ε) : BuildState → Except (BuildError ε) Compilation → Prop
  | within (state : BuildState) (built : state.context.registry.IsBuilt) :
      Compiles source state ((Build.compile source).outcome state).1
  | alone (unitId : String) (config : Config) (name : String) (scope : Scope) :
      Compiles source { context := .create unitId config name, scope }
        (compileAlone unitId config name source scope).1

variable {source : Source ε} {state between : BuildState}
  {ended : Except (BuildError ε) Compilation}

theorem YieldsElements.registers (h : source.YieldsElements) : source.produce.Registers := by
  cases h with
  | tree root => exact Build.registers_pure _
  | action registers _ => exact registers

theorem YieldsElements.element (h : source.YieldsElements) {tree : Tree}
    (hproduce : source.produce.outcome state = (.ok tree, between)) :
    ∃ root, tree = .element root := by
  cases h with
  | tree root =>
    obtain ⟨htree, -⟩ := Prod.mk.inj hproduce
    exact ⟨root, (Except.ok.inj htree).symm⟩
  | action _ element => exact element state between tree hproduce

private theorem Compiles.isBuilt (h : source.Compiles state ended) :
    state.context.registry.IsBuilt := by
  cases h with
  | within _ built => exact built
  | alone unitId config name scope => exact .refl _

private theorem Compiles.eq_outcome (h : source.Compiles state ended) :
    ended = ((Build.compile source).outcome state).1 := by
  cases h with
  | within _ _ => rfl
  | alone unitId config name scope => rfl

/-- What a compiled unit comes from: its source yielded a tree, after registrations that made the
registry; the tree was lowered with that registry, and so were the functions and the module. -/
theorem Compiles.of_ok {result : Compilation} (hsource : source.YieldsElements)
    (hcompiles : source.Compiles state (.ok result)) :
    ∃ root between registrations,
      source.produce.outcome state.entered = (.ok (.element root), between) ∧
      Registry.registerAll { owner := state.context.registry.owner } registrations =
        .ok between.context.registry ∧
      (lowerTree between.context.registry root).Returns result.document ∧
      result.functions = between.context.registry.names ∧
      ∃ title, result.runtime = between.context.registry.moduleText title := by
  obtain ⟨lowered, hlower, hfunctions, hruntime⟩ :=
    Build.outcome_compile_eq_ok hcompiles.eq_outcome.symm
  obtain ⟨tree, between, hproduce, -⟩ := Build.outcome_bind_eq_ok hlower
  obtain ⟨root, rfl⟩ := hsource.element hproduce
  rw [Build.outcome_lowerSource_of_element hproduce] at hlower
  obtain ⟨hopen, hreturns, hsame⟩ := Build.outcome_lowerElement_eq_ok hlower
  rw [hsame] at hfunctions hruntime
  have hbecomes : state.context.registry.Becomes between.context.registry := by
    have hregisters := hsource.registers state.entered
    rwa [hproduce] at hregisters
  -- A closed build lowers nothing, so nothing was closed on the way.
  obtain ⟨registrations, hall⟩ := (hcompiles.isBuilt.trans hbecomes).exists_registerAll hopen
  exact ⟨root, between, registrations, hproduce, hall, hreturns, hfunctions, _, hruntime⟩

/-- A unit whose tree gives a function that the registry does not hold is not compiled. -/
theorem Compiles.error_of_foreign {root : Value} {handle : Handle}
    (hcompiles : source.Compiles state ended)
    (hproduce : source.produce.outcome state.entered = (.ok (.element root), between))
    (hcall : .handle handle ∈ root.treeCalls)
    (hforeign : handle ∉ between.context.registry.functions) :
    ended = .error (.registration ⟨between.context.name, .contextClosed⟩) ∨
      ∃ error, ended = .error (.lowering error) := by
  have hlower := Build.outcome_lowerSource_of_element hproduce
  rw [hcompiles.eq_outcome]
  cases hclosed : between.context.closed with
  | true =>
    left
    apply Build.fst_outcome_compile_of_error
    rw [hlower]
    exact Build.outcome_lowerElement_of_closed root hclosed
  | false =>
    right
    rcases hrun : (lowerTree between.context.registry root).run.run between.context.counters with
      ⟨result, counters⟩
    cases result with
    | ok document =>
      exact absurd ⟨_, _, hrun⟩ (not_returns_of_foreign hcall hforeign document)
    | error error =>
      refine ⟨error, Build.fst_outcome_compile_of_error ?_⟩
      rw [hlower]
      exact Build.outcome_lowerElement_of_error hclosed hrun

/-- **No staged call dangles.** Let the source of a unit be a tree of elements, or an action that
registers functions and yields one.

If the unit is compiled, the staged calls of the document are the calls of the tree, one by one,
each of them to a function that the tree gives or names. Wherever a staged call stands in the
document, the function is listed in the result, the runtime module has its relocated definition, and
the table of the module has exactly one entry for its name.

A tree that gives a function which the registry does not hold is not compiled, and its call is
refused where it stands. -/
theorem staged_calls_defined (hsource : source.YieldsElements)
    (hcompiles : source.Compiles state ended) :
    (∀ result, ended = .ok result → ∃ root between registrations,
      source.produce.outcome state.entered = (.ok (.element root), between) ∧
      Registry.registerAll { owner := state.context.registry.owner } registrations =
        .ok between.context.registry ∧
      result.functions = registrations.map Registration.name ∧
      List.Forall₂ between.context.registry.Resolves root.treeCalls result.document.stagedCalls ∧
      ∀ path call, (path, .inner (.leaf (.stagedCall call))) ∈ result.document.walk →
        call.function ∈ result.functions ∧
        ∃ handle ∈ between.context.registry.functions, handle.name = call.function ∧
          result.Provides between.context.registry handle ∧
          ∃ registration ∈ registrations,
            registration.Describes state.context.registry.owner handle) ∧
    (∀ root between handle,
      source.produce.outcome state.entered = (.ok (.element root), between) →
      .handle handle ∈ root.treeCalls → handle ∉ between.context.registry.functions →
      ended = .error (.registration ⟨between.context.name, .contextClosed⟩) ∨
        ∃ error, ended = .error (.lowering error)) ∧
    ∀ (registry : Registry) (path : TreePath) (props : List (String × Value))
      (children : List Value) (counters : Counters) (handle : Handle),
      prop? props ["fn", "function"] = some (.handle handle) → handle ∉ registry.functions →
      (lowerBlock registry path (.element "Call" props children)).run.run counters =
        (.error (.located path (some "Call") (.notRegistered handle.name)), counters) := by
  refine ⟨?_, fun root between handle ↦ hcompiles.error_of_foreign, ?_⟩
  · rintro result rfl
    obtain ⟨root, between, registrations, hproduce, hall, hreturns, hfunctions, title, hruntime⟩ :=
      hcompiles.of_ok hsource
    have hconsistent : between.context.registry.IsConsistent :=
      Registry.registerAll_invariant (fun hold ↦ hold.register)
        (Registry.isConsistent_of_functions rfl) hall
    have hdescribes := Registry.registerAll_describes hall
    have hresolves := resolves_of_lowerTree hreturns
    refine ⟨root, between, registrations, hproduce, hall, ?_, hresolves, fun path call hmem ↦ ?_⟩
    · rw [hfunctions]
      exact Registry.names_eq_of_describes hdescribes
    · have hcall := Document.mem_stagedCalls_iff.mpr ⟨path, hmem⟩
      obtain ⟨callee, -, handle, hhandle, hname, -⟩ := exists_mem_of_forall₂ hresolves.flip hcall
      refine ⟨?_, handle, hhandle, hname.symm, hconsistent.provides hhandle hruntime,
        exists_mem_of_forall₂ hdescribes.flip hhandle⟩
      rw [hfunctions, hname]
      exact List.mem_map_of_mem hhandle
  · intro registry path props children counters handle hprop hforeign
    exact lowerBlock_of_foreign hprop hforeign path children counters

/-- A unit that registers a function and calls it twice: inside an item, by the handle that the
registration returned, and by name. -/
theorem staged_calls_defined_nested :
    let registration : Registration := ⟨"init", none, .callable
      { name := some "init", parameters := [⟨"args", .positional, .missing, none⟩],
        source := .definition ["return args"], code := some { names := .node [] [] } }⟩
    let call (fn : Value) : Value := .element "Call" [("fn", fn)] []
    let source : Source Empty := .action do
      let handle ← Build.register registration
      return .element (.element "document" []
        [.element "ul" [] [.element "li" [] [call (.handle handle)]], call (.text "init")])
    ∃ result, (compileAlone "unit" {} "doc" source).1 = .ok result ∧
      result.document.stagedCalls.map StagedCall.function = ["init", "init"] ∧
      result.functions = ["init"] ∧
      ∀ path call, (path, .inner (.leaf (.stagedCall call))) ∈ result.document.walk →
        call.function ∈ result.functions ∧
          ∃ registry handle, handle.name = call.function ∧ result.Provides registry handle := by
  intro registration call source
  have hsource : source.YieldsElements := by
    refine .action ?_ ?_
    · exact .bind (Build.registers_register _) fun _ ↦ Build.registers_pure _
    · intro state between tree h
      obtain ⟨handle, after, -, h⟩ := Build.outcome_bind_eq_ok h
      exact ⟨_, (Except.ok.inj (Prod.mk.inj h).1).symm⟩
  have hcompiled : ((compileAlone "unit" {} "doc" source).1.toOption.map fun result ↦
      (result.document.stagedCalls.map StagedCall.function, result.functions)) =
      some (["init", "init"], ["init"]) := by decide +kernel
  obtain ⟨hdefined, -⟩ := staged_calls_defined hsource (.alone "unit" {} "doc" {})
  cases hended : (compileAlone "unit" {} "doc" source).1 with
  | error error =>
    rw [hended] at hcompiled
    cases hcompiled
  | ok result =>
    rw [hended] at hcompiled
    obtain ⟨hcalls, hfunctions⟩ := Prod.mk.inj (Option.some.inj hcompiled)
    obtain ⟨root, between, registrations, -, -, -, -, hwalk⟩ := hdefined result hended
    refine ⟨result, rfl, hcalls, hfunctions, fun path call hmem ↦ ?_⟩
    obtain ⟨hlisted, handle, -, hname, hprovides, -⟩ := hwalk path call hmem
    exact ⟨hlisted, _, handle, hname, hprovides⟩

end Source

end Runbook
