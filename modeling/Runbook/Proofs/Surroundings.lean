import Runbook.Proofs.Stages

/-!
# What a compilation leaves behind

A unit may fail in its source and in each of its stages, and the build that it is compiled in may
belong to somebody else. What is left then is said by one relation of contexts,
`Context.AllocatesTo`: more names were allocated, and nothing else has changed. Every action after
the source has been obtained moves the context along this relation, however it ends
(`Build.OnlyAllocates`), and the relation is closed under one action after the other.

The only stage that does anything to the context is lowering, and the hard part is that it allocates
names and does nothing else, wherever in the tree it fails. `Lower.Allocates` says so, and it holds
of every step of lowering.
-/

namespace Runbook

/-! ## Counters -/

namespace Counters

variable {before after last : Counters}

/-- How many names were allocated for a prefix in capitals. -/
def count (counters : Counters) (key : String) : Nat := (counters.lookup key).getD 0

/-- The counters after names for several prefixes have been allocated. -/
def allocateAll (stems : List String) (counters : Counters) : Counters :=
  stems.foldl (fun counters stem ↦ (allocate stem counters).2) counters

private theorem allocateAll_append (stems others : List String) (counters : Counters) :
    allocateAll (stems ++ others) counters = allocateAll others (allocateAll stems counters) :=
  List.foldl_append

theorem count_le_allocate (stem key : String) (counters : Counters) :
    counters.count key ≤ (allocate stem counters).2.count key := by
  by_cases hkey : Text.upper stem = key
  · subst hkey
    rw [count, count, allocate, lookup_setName]
    exact Nat.le_succ _
  · have hsame : (allocate stem counters).2.count key = counters.count key := by
      rw [count, count, allocate, lookup_setName_of_ne (Ne.symm hkey)]
    exact Nat.le_of_eq hsame.symm

theorem count_le_allocateAll (stems : List String) (key : String) (counters : Counters) :
    counters.count key ≤ (allocateAll stems counters).count key := by
  induction stems generalizing counters with
  | nil => exact Nat.le_refl _
  | cons stem rest ih => exact Nat.le_trans (count_le_allocate stem key counters) (ih _)

end Counters

/-! ## Lowering only allocates names -/

namespace Lower

variable {α β : Type}

/-- However the action ends, it has changed the counters by nothing but allocating names. -/
def Allocates (action : Lower α) : Prop :=
  ∀ counters, ∃ stems, (action.run.run counters).2 = Counters.allocateAll stems counters

private theorem allocates_pure (value : α) : (pure value : Lower α).Allocates :=
  fun _ ↦ ⟨[], rfl⟩

private theorem allocates_throw (error : LowerError) : (throw error : Lower α).Allocates :=
  fun _ ↦ ⟨[], rfl⟩

private theorem allocates_lift (given : Except LowerError α) : (liftM given : Lower α).Allocates :=
  fun _ ↦ ⟨[], rfl⟩

theorem Silent.allocates {action : Lower α} (h : action.Silent) : action.Allocates :=
  fun counters ↦ ⟨[], h counters⟩

private theorem allocates_allocateOutput (stem : String) : (allocateOutput stem).Allocates :=
  fun _ ↦ ⟨[stem], rfl⟩

theorem Allocates.bind {action : Lower α} {next : α → Lower β} (h : action.Allocates)
    (hnext : ∀ value, (next value).Allocates) : (action >>= next).Allocates := by
  intro counters
  obtain ⟨stems, hstems⟩ := h counters
  change ∃ stems, (ExceptT.bindCont next (action.run.run counters).1
    (action.run.run counters).2).2 = _
  rcases hrun : action.run.run counters with ⟨result, between⟩
  rw [hrun] at hstems
  cases result with
  | error error => exact ⟨stems, hstems⟩
  | ok value =>
    obtain ⟨others, hothers⟩ := hnext value between
    refine ⟨stems ++ others, hothers.trans ?_⟩
    change between = _ at hstems
    rw [hstems, Counters.allocateAll_append]

private theorem Allocates.bind_lift {given : Except LowerError α} {next : α → Lower β}
    (h : ∀ value, given = .ok value → (next value).Allocates) :
    (liftM given >>= next : Lower β).Allocates := by
  cases given with
  | error error => exact allocates_throw error
  | ok value => exact h value rfl

end Lower

open Lower

private theorem allocates_callLeaf (registry : Registry) (site : Site) :
    (callLeaf registry site).Allocates := by
  refine .bind (allocates_lift _) fun handle ↦ ?_
  dsimp only
  split
  · exact .bind (allocates_allocateOutput _) fun _ ↦ allocates_pure _
  · exact .bind (allocates_pure _) fun _ ↦ allocates_pure _

private theorem allocates_lowerLeaf (registry : Registry) (tag : LeafTag) (site : Site) :
    (lowerLeaf registry tag site).Allocates := by
  cases tag with
  | call => exact allocates_callLeaf registry site
  | rule => exact allocates_pure _
  | assign => exact .bind (allocates_lift _) fun _ ↦ allocates_pure _
  | breakLoop | endCommand => exact .bind (allocates_lift _) fun _ ↦ allocates_lift _
  | _ => exact allocates_lift _

private theorem allocates_aloneBlocks {child : Value} {block : Lower Block} {inline : Lower Inline}
    (hblock : block.Allocates) (hinline : inline.Allocates) :
    (aloneBlocks child block inline).Allocates := by
  rw [aloneBlocks]
  split
  · exact allocates_pure _
  · exact allocates_pure _
  · exact .bind hblock fun _ ↦ allocates_pure _
  · exact .bind hinline fun _ ↦ allocates_pure _

private theorem allocates_aloneInline (child : Value) {block : Lower Block}
    (hblock : block.Allocates) (path : TreePath) :
    (aloneBlocks child block (lowerInline path child)).Allocates :=
  allocates_aloneBlocks hblock (silent_lowerInline path child).allocates

/-- Whatever is lowered, only names are allocated. -/
def allocationInvariant (registry : Registry) : LoweringInvariant registry where
  block _ _ action := action.Allocates
  blocks _ _ _ _ action := action.Allocates
  each _ _ _ action := action.Allocates
  items _ _ _ action := action.Allocates
  tree _ action := action.Allocates
  noElement _ := allocates_throw _
  unknown _ := allocates_throw _
  paragraph _ := .bind (silent_lowerInlines _ _ _).allocates fun _ ↦ allocates_pure _
  heading _ := .bind (silent_lowerInlines _ _ _).allocates fun _ ↦
    .bind (allocates_lift _) fun _ ↦ allocates_pure _
  list _ hlowered hothers := .bind (.bind_lift hlowered) fun _ ↦ .bind hothers fun _ ↦
    .bind (allocates_lift _) fun _ ↦ allocates_pure _
  item _ hchildren := .bind hchildren fun _ ↦ allocates_pure _
  container _ hchildren := .bind (allocates_lift _) fun _ ↦ .bind hchildren fun _ ↦
    .bind (allocates_lift _) fun _ ↦ allocates_pure _
  leaf _ := .bind (allocates_lowerLeaf _ _ _) fun _ ↦ allocates_pure _
  blocksNil _ _ _ := allocates_pure _
  blocksPass _ hothers := hothers
  blocksInline _ hothers := .bind (silent_lowerInline _ _).allocates hothers
  blocksCons hfirst hothers := .bind hfirst fun _ ↦ .bind hothers fun _ ↦ allocates_pure _
  eachNil _ _ := allocates_pure _
  eachCons hfirst hothers := .bind (allocates_aloneInline _ hfirst _) fun _ ↦
    .bind hothers fun _ ↦ allocates_pure _
  itemsNil _ _ := allocates_pure _
  itemsPass _ hothers := hothers
  itemsCons hfirst hothers := .bind hfirst fun _ ↦ .bind hothers fun _ ↦ allocates_pure _
  itemsRefused _ _ := allocates_throw _
  document _ _ hchildren := .bind (allocates_lift _) fun _ ↦ .bind hchildren fun _ ↦
    allocates_lift _
  alone _ _ hmade := .bind (allocates_aloneInline _ hmade _) fun _ ↦ allocates_pure _
  noTree _ _ := allocates_throw _

theorem allocates_lowerTree (registry : Registry) (root : Value) :
    (lowerTree registry root).Allocates :=
  (allocationInvariant registry).tree_lowerTree root

/-! ## Stages that only allocate names -/

namespace Context

variable {before between after : Context}

/-- The second context is the first one with more names allocated; nothing else has changed. -/
def AllocatesTo (before after : Context) : Prop :=
  ∃ stems, after = { before with counters := before.counters.allocateAll stems }

theorem AllocatesTo.refl (context : Context) : context.AllocatesTo context := ⟨[], rfl⟩

theorem AllocatesTo.trans (h : before.AllocatesTo between) (hnext : between.AllocatesTo after) :
    before.AllocatesTo after := by
  obtain ⟨stems, rfl⟩ := h
  obtain ⟨others, rfl⟩ := hnext
  refine ⟨stems ++ others, ?_⟩
  rw [Counters.allocateAll_append]

private theorem AllocatesTo.registry_eq (h : before.AllocatesTo after) :
    after.registry = before.registry := by
  obtain ⟨stems, rfl⟩ := h
  rfl

private theorem AllocatesTo.count_le (h : before.AllocatesTo after) (key : String) :
    before.counters.count key ≤ after.counters.count key := by
  obtain ⟨stems, rfl⟩ := h
  exact Counters.count_le_allocateAll stems key before.counters

end Context

namespace Build

variable {ε α β : Type}

/-- However the action ends, it has changed the context by nothing but allocating names. -/
def OnlyAllocates (action : Build ε α) : Prop :=
  ∀ state : BuildState, state.context.AllocatesTo (action.outcome state).2.context

private theorem KeepsContext.onlyAllocates {action : Build ε α} (h : action.KeepsContext) :
    action.OnlyAllocates := by
  intro state
  rw [h state]
  exact .refl _

/-- What an action has done to the context when it ends is what its first part has done, and more
names allocated. -/
theorem allocatesTo_bind (action : Build ε α) {next : α → Build ε β}
    (hnext : ∀ value, (next value).OnlyAllocates) (state : BuildState) :
    (action.outcome state).2.context.AllocatesTo ((action >>= next).outcome state).2.context := by
  rw [outcome_bind]
  generalize action.outcome state = ended
  obtain ⟨result, between⟩ := ended
  cases result with
  | error error => exact .refl _
  | ok value => exact hnext value between

theorem OnlyAllocates.bind {action : Build ε α} {next : α → Build ε β} (h : action.OnlyAllocates)
    (hnext : ∀ value, (next value).OnlyAllocates) : (action >>= next).OnlyAllocates :=
  fun state ↦ (h state).trans (allocatesTo_bind action hnext state)

private theorem onlyAllocates_lowerElement (root : Value) :
    (lowerElement root : Build ε Document).OnlyAllocates := by
  have hlowering : (lowering fun registry ↦ lowerTree registry root :
      Build ε Document).OnlyAllocates := by
    intro state
    obtain ⟨stems, hstems⟩ := allocates_lowerTree state.context.registry root state.context.counters
    refine ⟨stems, ?_⟩
    rw [outcome_lowering, hstems]
  refine .bind keepsContext_context.onlyAllocates fun _ ↦ ?_
  refine .bind (keepsContext_lift _ _).onlyAllocates fun _ ↦ ?_
  refine .bind hlowering fun _ ↦ ?_
  refine .bind (keepsContext_log _ _ _ _).onlyAllocates fun _ ↦ ?_
  exact (keepsContext_pure _).onlyAllocates

private theorem keepsContext_render : (render : Build ε (Option String)).KeepsContext := by
  intro state
  obtain ⟨after, houtcome, hafter⟩ := outcome_render (ε := ε) state
  rw [houtcome, hafter]

private theorem keepsContext_summarize (document : Document) (warnings : List Warning)
    (text : String) (runtime : Option String) :
    (summarize document warnings text runtime : Build ε Compilation).KeepsContext := by
  intro state
  obtain ⟨after, houtcome, hafter⟩ :=
    outcome_summarize (ε := ε) document warnings text runtime state
  rw [houtcome, hafter]

private theorem allocatesTo_lowerSource (source : Source ε) (state : BuildState) :
    (source.produce.outcome state).2.context.AllocatesTo
      ((lowerSource source).outcome state).2.context := by
  refine allocatesTo_bind source.produce (fun tree ↦ ?_) state
  cases tree with
  | document document => exact (keepsContext_pure _).onlyAllocates
  | element root => exact onlyAllocates_lowerElement root

/-- From the moment at which the source has been obtained, compiling only allocates names. -/
theorem allocatesTo_compile (source : Source ε) (state : BuildState) :
    (source.produce.outcome state.entered).2.context.AllocatesTo
      ((compile source).outcome state).2.context := by
  let inside : BuildState :=
    { state with scope := ⟨some state.context.unitId, some state.context.name, none⟩ }
  have hlower : (source.produce.outcome state.entered).2.context.AllocatesTo
      ((atStage .lower (lowerSource source)).outcome inside).2.context :=
    allocatesTo_lowerSource source state.entered
  refine hlower.trans (allocatesTo_bind _ (fun document ↦ ?_) inside)
  refine .bind ((keepsContext_validate document).atStage .validate).onlyAllocates fun warnings ↦ ?_
  refine .bind ((keepsContext_emit document).atStage .emit).onlyAllocates fun text ↦ ?_
  refine .bind (keepsContext_render.atStage .render).onlyAllocates fun runtime ↦ ?_
  exact (keepsContext_summarize document warnings text runtime).onlyAllocates

end Build

/-! ## Scopes -/

namespace ScopeTable

/-- A binding is entered and left again, and in between it is not touched itself: the scope is first
the one inside the binding and then the one from before, whatever else was entered or left. -/
theorem exit?_of_enter? (table : ScopeTable) (key : String) (binding : Binding) :
    ∃ entered, (table.declare key binding).enter? key = some entered ∧
      entered.current = binding.inside table.current ∧
      ∀ later : ScopeTable, later.bindings.lookup key = entered.bindings.lookup key →
        ∃ left, later.exit? key = some left ∧ left.current = table.current := by
  have hdeclared : (table.declare key binding).bindings.lookup key = some ⟨binding, none⟩ :=
    lookup_setName ..
  rw [enter?, hdeclared]
  refine ⟨_, rfl, rfl, fun later hlater ↦ ?_⟩
  dsimp only at hlater
  rw [lookup_setName] at hlater
  rw [exit?, hlater]
  exact ⟨_, rfl, rfl⟩

end ScopeTable

/-! ## Units -/

namespace Source

variable {ε : Type}

/-- **A compilation leaves its surroundings as they were,** however it ends.

A build of its own is closed in the end, without functions and without counters. A build that was
handed over has the functions that it had when the source was obtained, or failed to be obtained,
and is closed if it was closed then; of the rest of the context only the counters have changed, by
allocating names, and no counter has gone down. A source that is a tree is obtained without any
change at all. Either way the scope of the log is the one from before.

No stage after that touches the functions: lowering only allocates names, and checking, emitting and
rendering keep the whole context. The scope inside a unit or a stage, and the one after it, are
those of a binding that is entered and left. -/
theorem compile_keeps_surroundings (source : Source ε) :
    (∀ (unitId : String) (config : Config) (name : String) (scope : Scope),
      let ended := (compileAlone unitId config name source scope).2
      ended.scope = scope ∧ ended.context.closed = true ∧
        ended.context.registry.functions = [] ∧ ended.context.counters = []) ∧
    (∀ state : BuildState,
      let obtained := (source.produce.outcome state.entered).2.context
      let ended := ((Build.compile source).outcome state).2
      ended.scope = state.scope ∧ ended.context.registry = obtained.registry ∧
        ended.context.closed = obtained.closed ∧ obtained.AllocatesTo ended.context ∧
        (∀ key, obtained.counters.count key ≤ ended.context.counters.count key) ∧
        ∀ tree, source = .tree tree → obtained = state.context) ∧
    (∀ root, (Build.lowerElement root : Build ε Document).OnlyAllocates) ∧
    (∀ document, (Build.validate document : Build ε (List Warning)).KeepsContext ∧
      (Build.emit document : Build ε String).KeepsContext) ∧
    (Build.render : Build ε (Option String)).KeepsContext ∧
    ∀ (table : ScopeTable) (key : String) (binding : Binding),
      ∃ entered, (table.declare key binding).enter? key = some entered ∧
        entered.current = binding.inside table.current ∧
        ∀ later : ScopeTable, later.bindings.lookup key = entered.bindings.lookup key →
          ∃ left, later.exit? key = some left ∧ left.current = table.current := by
  refine ⟨fun unitId config name scope ↦ ⟨rfl, rfl, rfl, rfl⟩, fun state ↦ ?_,
    Build.onlyAllocates_lowerElement, fun document ↦ ?_, Build.keepsContext_render,
    ScopeTable.exit?_of_enter?⟩
  · have hallocates := Build.allocatesTo_compile source state
    refine ⟨rfl, hallocates.registry_eq, ?_, hallocates, hallocates.count_le, ?_⟩
    · exact congrArg Registry.closed hallocates.registry_eq
    · rintro tree rfl
      rfl
  · exact ⟨Build.keepsContext_validate document, Build.keepsContext_emit document⟩

-- A build that was handed over: the source registers a function, its call is named, and only then
-- the else-branch turns out to follow no conditional.
example :
    let body : Body := .callable
      { name := some "init", parameters := [⟨"args", .positional, .missing, none⟩],
        source := .definition ["return args"], code := some { names := .node [] [] } }
    let source : Source Empty := .action do
      let handle ← Build.register ⟨"init", none, body⟩
      return .element (.element "document" []
        [.element "Call" [("fn", .handle handle)] [], .element "Else" [] []])
    let state : BuildState :=
      { context := .create "unit" {} "doc", scope := { stage := some "batch" } }
    let ended := (Build.compile source).outcome state
    ended.1.toBool = false ∧ ended.2.context.registry.names = ["init"] ∧
      ended.2.context.counters = [("INIT", 1)] ∧ ended.2.scope = state.scope := by
  decide +kernel

end Source

end Runbook
