import Runbook.Build.Compile
import Runbook.Proofs.LoweredCalls

/-!
# The stages of a compilation

Only the first stage of a compilation changes the context of its build: it obtains the source, which
may register functions, and lowers it, which counts allocated names. The later stages only read the
context and log (`Build.KeepsContext`). So what they make comes from the functions that were there
when the tree was lowered.
-/

namespace Runbook

namespace Build

variable {ε α β : Type}

/-! ## Actions that end well -/

theorem outcome_bind_eq_ok {action : Build ε α} {next : α → Build ε β} {state after : BuildState}
    {result : β} (h : (action >>= next).outcome state = (.ok result, after)) :
    ∃ middle between, action.outcome state = (.ok middle, between) ∧
      (next middle).outcome between = (.ok result, after) := by
  rw [outcome_bind] at h
  rcases hfirst : action.outcome state with ⟨first, between⟩
  rw [hfirst] at h
  cases first with
  | error error => cases (Prod.mk.inj h).1
  | ok middle => exact ⟨middle, between, rfl, h⟩

private theorem outcome_within_eq_ok {binding : Binding} {action : Build ε α}
    {state after : BuildState} {result : α}
    (h : (within binding action).outcome state = (.ok result, after)) :
    ∃ last, action.outcome { state with scope := binding.inside state.scope } = (.ok result, last) ∧
      after.context = last.context := by
  obtain ⟨hresult, rfl⟩ := Prod.mk.inj h
  exact ⟨_, Prod.ext hresult rfl, rfl⟩

private theorem fst_outcome_bind_of_error {action : Build ε α} {state : BuildState}
    {error : BuildError ε} (h : (action.outcome state).1 = .error error) (next : α → Build ε β) :
    ((action >>= next).outcome state).1 = .error error := by
  rw [outcome_bind]
  generalize action.outcome state = ended at h ⊢
  obtain ⟨result, between⟩ := ended
  obtain rfl : result = .error error := h
  rfl

/-! ## Actions that keep the context -/

/-- The action changes nothing in the context of the build, however it ends. -/
def KeepsContext (action : Build ε α) : Prop :=
  ∀ state, (action.outcome state).2.context = state.context

theorem keepsContext_pure (value : α) : (pure value : Build ε α).KeepsContext :=
  fun _ ↦ rfl

theorem keepsContext_context : (context : Build ε Context).KeepsContext :=
  fun _ ↦ rfl

theorem keepsContext_log (level : Level) (component message : String) (fields : Value) :
    (log level component message fields : Build ε Unit).KeepsContext :=
  fun _ ↦ rfl

theorem keepsContext_lift {δ : Type} (wrap : δ → BuildError ε) (result : Except δ α) :
    (lift wrap result).KeepsContext := by
  intro state
  cases result with
  | error error => rfl
  | ok value => rfl

theorem KeepsContext.bind {action : Build ε α} {next : α → Build ε β} (h : action.KeepsContext)
    (hnext : ∀ value, (next value).KeepsContext) : (action >>= next).KeepsContext := by
  intro state
  have hfirst := h state
  rw [outcome_bind]
  generalize action.outcome state = ended at hfirst ⊢
  obtain ⟨result, between⟩ := ended
  cases result with
  | error error => exact hfirst
  | ok value => exact (hnext value between).trans hfirst

theorem KeepsContext.atStage {action : Build ε α} (h : action.KeepsContext) (stage : Stage) :
    (atStage stage action).KeepsContext :=
  fun _ ↦ h _

theorem KeepsContext.eq {action : Build ε α} (h : action.KeepsContext) {state after : BuildState}
    {result : Except (BuildError ε) α} (houtcome : action.outcome state = (result, after)) :
    after.context = state.context := by
  have hkept := h state
  rwa [houtcome] at hkept

private theorem KeepsContext.forIn {item : α → Build ε Unit}
    (h : ∀ value, (item value).KeepsContext) (values : List α) :
    (forIn values PUnit.unit fun value _ ↦ do
      item value
      pure (.yield PUnit.unit) : Build ε PUnit).KeepsContext := by
  induction values with
  | nil => exact keepsContext_pure _
  | cons value rest ih =>
    rw [List.forIn_cons]
    refine .bind (.bind (h value) fun _ ↦ keepsContext_pure _) fun step ↦ ?_
    cases step with
    | done last => exact keepsContext_pure _
    | yield last => exact ih

/-! ## The later stages -/

theorem keepsContext_validate (document : Document) :
    (validate document : Build ε (List Warning)).KeepsContext := by
  refine .bind (keepsContext_log _ _ _ _) fun _ ↦ ?_
  refine .bind (keepsContext_lift _ _) fun _ ↦ ?_
  refine .bind keepsContext_context fun _ ↦ ?_
  refine .bind (keepsContext_log _ _ _ _) fun _ ↦ ?_
  refine .bind (.forIn (fun _ ↦ keepsContext_log _ _ _ _) _) fun _ ↦ ?_
  exact keepsContext_pure _

theorem keepsContext_emit (document : Document) :
    (emit document : Build ε String).KeepsContext := by
  refine .bind keepsContext_context fun _ ↦ ?_
  refine .bind (keepsContext_lift _ _) fun _ ↦ ?_
  refine .bind (keepsContext_log _ _ _ _) fun _ ↦ ?_
  refine .bind keepsContext_context fun _ ↦ ?_
  refine .bind (keepsContext_log _ _ _ _) fun _ ↦ ?_
  exact keepsContext_pure _

/-- Rendering yields the module of the build's functions and keeps the context. -/
theorem outcome_render (state : BuildState) :
    ∃ after, (render : Build ε (Option String)).outcome state =
        (.ok (state.context.registry.moduleText state.context.moduleTitle), after) ∧
      after.context = state.context := by
  rw [render, outcome_bind, outcome_context]
  dsimp only
  rw [outcome_bind, renderModule, outcome_bind, outcome_context]
  dsimp only
  cases state.context.registry.moduleText state.context.moduleTitle with
  | none => exact ⟨_, rfl, rfl⟩
  | some text => exact ⟨_, rfl, rfl⟩

theorem outcome_summarize (document : Document) (warnings : List Warning) (text : String)
    (runtime : Option String) (state : BuildState) :
    ∃ after, (summarize document warnings text runtime : Build ε Compilation).outcome state =
        (.ok ⟨state.context.name, state.context.unitId, document, text, runtime,
          state.context.registry.names, warnings⟩, after) ∧
      after.context = state.context :=
  ⟨_, rfl, rfl⟩

/-- What a compilation makes after it has lowered its source comes from the document, and from the
context as lowering left it. -/
theorem outcome_stages_eq_ok {source : Source ε} {state after : BuildState} {result : Compilation}
    (h : (stages source).outcome state = (.ok result, after)) :
    ∃ lowered, (atStage .lower (lowerSource source)).outcome state =
        (.ok result.document, lowered) ∧
      result.functions = lowered.context.registry.names ∧
      result.runtime = lowered.context.registry.moduleText lowered.context.moduleTitle := by
  obtain ⟨document, lowered, hlower, h⟩ := outcome_bind_eq_ok h
  obtain ⟨warnings, validated, hvalidate, h⟩ := outcome_bind_eq_ok h
  obtain ⟨text, emitted, hemit, h⟩ := outcome_bind_eq_ok h
  obtain ⟨runtime, rendered, hrender, h⟩ := outcome_bind_eq_ok h
  have hvalidated := ((keepsContext_validate document).atStage .validate).eq hvalidate
  have hemitted := ((keepsContext_emit document).atStage .emit).eq hemit
  obtain ⟨last, hlast, hrendered⟩ := outcome_within_eq_ok hrender
  obtain ⟨next, hnext, hkept⟩ := outcome_render (ε := ε)
    { emitted with scope := Binding.inside { stage := some Stage.render.name } emitted.scope }
  obtain ⟨hruntime, rfl⟩ := Prod.mk.inj (hlast.symm.trans hnext)
  obtain ⟨ended, hended, -⟩ := outcome_summarize (ε := ε) document warnings text runtime rendered
  obtain ⟨hresult, -⟩ := Prod.mk.inj (h.symm.trans hended)
  obtain rfl := Except.ok.inj hresult
  have hbefore : emitted.context = lowered.context := hemitted.trans hvalidated
  have hsame : rendered.context = lowered.context := hrendered.trans (hkept.trans hbefore)
  refine ⟨lowered, hlower, congrArg (·.registry.names) hsame, ?_⟩
  rw [Except.ok.inj hruntime, hbefore]

/-! ## Lowering -/

theorem outcome_lowering (lower : Registry → Lower Document) (state : BuildState) :
    (lowering lower : Build ε Document).outcome state =
      ((((lower state.context.registry).run.run state.context.counters).1.mapError .lowering),
        { state with context := { state.context with
          counters := ((lower state.context.registry).run.run state.context.counters).2 } }) :=
  rfl

private theorem outcome_lift_eq_ok {δ : Type} {wrap : δ → BuildError ε} {given : Except δ α}
    {state after : BuildState} {result : α}
    (h : (lift wrap given).outcome state = (.ok result, after)) :
    given = .ok result ∧ after = state := by
  cases given with
  | error error => cases h
  | ok value =>
    cases h
    exact ⟨rfl, rfl⟩

private theorem eq_ok_of_mapError {δ : Type} {wrap : δ → BuildError ε} {given : Except δ α}
    {result : α} (h : given.mapError wrap = .ok result) : given = .ok result := by
  cases given with
  | error error => cases h
  | ok value =>
    cases h
    rfl

/-- A tree is lowered in an open build, with its functions, and these stay. -/
theorem outcome_lowerElement_eq_ok {root : Value} {document : Document} {state after : BuildState}
    (h : (lowerElement root : Build ε Document).outcome state = (.ok document, after)) :
    state.context.closed = false ∧ (lowerTree state.context.registry root).Returns document ∧
      after.context.registry = state.context.registry := by
  obtain ⟨context, before, hcontext, h⟩ := outcome_bind_eq_ok h
  cases hcontext
  obtain ⟨⟨⟩, opened, hopened, h⟩ := outcome_bind_eq_ok h
  obtain ⟨hopen, rfl⟩ := outcome_lift_eq_ok hopened
  obtain ⟨made, lowered, hlowered, h⟩ := outcome_bind_eq_ok h
  obtain ⟨⟨⟩, logged, hlogged, h⟩ := outcome_bind_eq_ok h
  cases h
  cases hlogged
  rw [outcome_lowering] at hlowered
  obtain ⟨hresult, rfl⟩ := Prod.mk.inj hlowered
  refine ⟨?_, ⟨_, _, Prod.ext (eq_ok_of_mapError hresult) rfl⟩, rfl⟩
  rw [Context.ensureOpen] at hopen
  split at hopen
  · cases hopen
  · next hclosed => exact (Bool.not_eq_true _).mp hclosed

theorem outcome_lowerElement_of_closed (root : Value) {state : BuildState}
    (hclosed : state.context.closed = true) :
    ((lowerElement root : Build ε Document).outcome state).1 =
      .error (.registration ⟨state.context.name, .contextClosed⟩) := by
  have hensure : state.context.ensureOpen = .error ⟨state.context.name, .contextClosed⟩ := by
    rw [Context.ensureOpen, hclosed]
    rfl
  rw [lowerElement, outcome_bind, outcome_context]
  dsimp only
  rw [hensure]
  rfl

/-- A failure of lowering is the failure of the build. -/
theorem outcome_lowerElement_of_error {root : Value} {state : BuildState} {error : LowerError}
    {counters : Counters} (hopen : state.context.closed = false)
    (h : (lowerTree state.context.registry root).run.run state.context.counters =
      (.error error, counters)) :
    ((lowerElement root : Build ε Document).outcome state).1 = .error (.lowering error) := by
  have hensure : state.context.ensureOpen = .ok () := by
    rw [Context.ensureOpen, hopen]
    rfl
  rw [lowerElement, outcome_bind, outcome_context]
  dsimp only
  rw [hensure, outcome_bind, lift, outcome_pure]
  dsimp only
  rw [outcome_bind, outcome_lowering, h]
  rfl

end Build

/-! ## Units -/

/-- The state in which a unit obtains its source. -/
def BuildState.entered (state : BuildState) : BuildState :=
  { state with scope := ⟨some state.context.unitId, some state.context.name, some "lower"⟩ }

namespace Build

variable {ε : Type} {source : Source ε} {state between : BuildState} {root : Value}
  {result : Compilation}

theorem fst_outcome_compile_of_error {error : BuildError ε}
    (h : ((lowerSource source).outcome state.entered).1 = .error error) :
    ((compile source).outcome state).1 = .error error := by
  have hstage : ((atStage .lower (lowerSource source)).outcome { state with
      scope := ⟨some state.context.unitId, some state.context.name, none⟩ }).1 = .error error := h
  exact fst_outcome_bind_of_error hstage _

theorem outcome_compile_eq_ok (h : ((compile source).outcome state).1 = .ok result) :
    ∃ lowered, (lowerSource source).outcome state.entered = (.ok result.document, lowered) ∧
      result.functions = lowered.context.registry.names ∧
      result.runtime = lowered.context.registry.moduleText lowered.context.moduleTitle := by
  have hstages : ((stages source).outcome { state with
      scope := ⟨some state.context.unitId, some state.context.name, none⟩ }).1 = .ok result := h
  obtain ⟨lowered, hlower, hfunctions, hruntime⟩ := outcome_stages_eq_ok (Prod.ext hstages rfl)
  obtain ⟨last, hlast, hcontext⟩ := outcome_within_eq_ok hlower
  refine ⟨last, hlast, ?_, ?_⟩
  · rw [hfunctions, hcontext]
  · rw [hruntime, hcontext]

theorem outcome_lowerSource_of_element
    (h : source.produce.outcome state = (.ok (.element root), between)) :
    (lowerSource source).outcome state = (lowerElement root).outcome between := by
  rw [lowerSource, outcome_bind, h]

end Build

end Runbook
