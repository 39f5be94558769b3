import Runbook.Log.Scope

/-!
# Nested scopes

A binding keeps the scope that was in force when it was entered, and leaving it restores that scope.
There is no stack of scopes: what has to be restored is spread over the bindings themselves. A run
that leaves the innermost open binding each time, and that enters no binding which is still open,
behaves as if there were one. The scope in force is then the initial one with all open bindings laid
over it, from the outermost to the innermost.

The invariant (`ScopeTable.Follows`) says of every open binding that it keeps the scope made by the
bindings around it. Entering a binding a second time would overwrite what it keeps, and this is the
only place where the runs have to be restricted.
-/

namespace Runbook

/-! ## Scopes under bindings -/

/-- The scope after a binding is laid over it. A binding with a unit replaces everything, and one
without a unit only the name and the stage that it gives. -/
def Binding.over (binding : Binding) (scope : Scope) : Scope :=
  if binding.unitId.isSome then
    { unitId := binding.unitId, name := binding.name, stage := binding.stage }
  else
    { scope with
      name := if binding.name.isSome then binding.name else scope.name
      stage := if binding.stage.isSome then binding.stage else scope.stage }

/-- The scope under bindings of which the first is the innermost. -/
def Scope.under (start : Scope) (bindings : List Binding) : Scope :=
  bindings.foldr Binding.over start

private theorem Binding.inside_eq_over (binding : Binding) (outer : Scope) :
    binding.inside outer = binding.over outer := by
  obtain ⟨unitId, name, stage⟩ := binding
  cases unitId with
  | some unitId => rfl
  | none => cases name <;> cases stage <;> rfl

/-! ## Runs -/

/-- A step of a run: a binding is made, entered or left. -/
inductive ScopeStep where
  | make (key : String) (binding : Binding)
  | enter (key : String)
  | leave (key : String)
deriving DecidableEq, Repr

namespace ScopeTable

/-- Takes a step, if the binding is there. -/
def step? (table : ScopeTable) : ScopeStep → Option ScopeTable
  | .make key binding => some (table.declare key binding)
  | .enter key => table.enter? key
  | .leave key => table.exit? key

/-- Takes steps one after the other. -/
def run? (table : ScopeTable) (steps : List ScopeStep) : Option ScopeTable :=
  steps.foldlM step? table

end ScopeTable

/-- The bindings that were made, and those of them that are open, the innermost first. -/
structure Nest where
  made : String → Option Binding
  opened : List (String × Binding) := []

namespace Nest

/-- The names of the open bindings. -/
def keys (nest : Nest) : List String := nest.opened.map Prod.fst

/-- Takes a step of a properly nested run. A binding that is open is neither made anew nor entered
again, and only the innermost one is left. -/
def step? (nest : Nest) : ScopeStep → Option Nest
  | .make key binding =>
    if key ∈ nest.keys then none
    else
      some { nest with made := fun other ↦ if other = key then some binding else nest.made other }
  | .enter key =>
    if key ∈ nest.keys then none
    else (nest.made key).map fun binding ↦ { nest with opened := (key, binding) :: nest.opened }
  | .leave key =>
    match nest.opened with
    | [] => none
    | (innermost, _) :: outer =>
      if innermost = key then some { nest with opened := outer } else none

/-- Takes the steps of a properly nested run; there is no result for any other run. -/
def run? (nest : Nest) (steps : List ScopeStep) : Option Nest := steps.foldlM step? nest

/-- The bindings of a table, before any of them is entered. -/
def ofTable (table : ScopeTable) : Nest :=
  { made := fun key ↦ (table.bindings.lookup key).map BindingState.binding }

variable {nest next : Nest} {key : String}

/-- What a step of a properly nested run can do. -/
theorem step?_cases {step : ScopeStep} (h : nest.step? step = some next) :
    (∃ key binding, step = .make key binding ∧ key ∉ nest.keys ∧ next = { nest with
      made := fun other ↦ if other = key then some binding else nest.made other }) ∨
    (∃ key binding, step = .enter key ∧ key ∉ nest.keys ∧ nest.made key = some binding ∧
      next = { nest with opened := (key, binding) :: nest.opened }) ∨
    ∃ key binding outer, step = .leave key ∧ nest.opened = (key, binding) :: outer ∧
      next = { nest with opened := outer } := by
  cases step with
  | make key binding =>
    rw [step?] at h
    split at h
    · cases h
    · next hkey => exact .inl ⟨key, binding, rfl, hkey, (Option.some.inj h).symm⟩
  | enter key =>
    rw [step?] at h
    split at h
    · cases h
    · next hkey =>
      obtain ⟨binding, hmade, hnext⟩ := Option.map_eq_some_iff.mp h
      exact .inr (.inl ⟨key, binding, rfl, hkey, hmade, hnext.symm⟩)
  | leave key =>
    rw [step?] at h
    split at h
    · cases h
    · next innermost binding outer hopened =>
      split at h
      · next hkey =>
        subst hkey
        exact .inr (.inr ⟨innermost, binding, outer, rfl, hopened, (Option.some.inj h).symm⟩)
      · cases h

/-- A part of a properly nested run from its start is one. -/
theorem exists_run?_of_isPrefix {steps first : List ScopeStep} (hfirst : first <+: steps)
    (h : (nest.run? steps).isSome = true) : ∃ reached, nest.run? first = some reached := by
  obtain ⟨rest, rfl⟩ := hfirst
  rw [run?, List.foldlM_append] at h
  cases hrun : first.foldlM step? nest with
  | none =>
    rw [hrun] at h
    exact absurd h Bool.false_ne_true
  | some reached => exact ⟨reached, hrun⟩

end Nest

/-! ## The invariant -/

namespace ScopeTable

/-- The table is where a properly nested run that started in the scope `start` has led to. -/
structure Follows (start : Scope) (nest : Nest) (table : ScopeTable) : Prop where
  current : table.current = start.under (nest.opened.map Prod.snd)
  made : ∀ key, (table.bindings.lookup key).map BindingState.binding = nest.made key
  /-- No binding is open twice. -/
  nodup : nest.keys.Nodup
  /-- An open binding keeps the scope that the bindings around it make. -/
  saved : ∀ key binding outer, (key, binding) :: outer <:+ nest.opened →
    table.bindings.lookup key = some ⟨binding, some (start.under (outer.map Prod.snd))⟩

namespace Follows

variable {start : Scope} {nest next : Nest} {table : ScopeTable} {key : String} {binding : Binding}

private theorem mem_keys {outer : List (String × Binding)}
    (h : (key, binding) :: outer <:+ nest.opened) :
    key ∈ nest.keys :=
  List.mem_map_of_mem (f := Prod.fst) (h.subset List.mem_cons_self)

private theorem make (h : Follows start nest table) (hkey : key ∉ nest.keys) (binding : Binding) :
    Follows start
      { nest with made := fun other ↦ if other = key then some binding else nest.made other }
      (table.declare key binding) where
  current := h.current
  made other := by
    by_cases hother : other = key
    · subst hother
      rw [declare, lookup_setName]
      exact (if_pos rfl).symm
    · rw [declare, lookup_setName_of_ne hother, h.made]
      exact (if_neg hother).symm
  nodup := h.nodup
  saved other bound outer hopened := by
    have hne : other ≠ key := fun heq ↦ hkey (heq ▸ mem_keys hopened)
    rw [declare, lookup_setName_of_ne hne, h.saved other bound outer hopened]

/-- The scope that an entered binding keeps is the one in force, which is what the bindings around
it make. -/
theorem enter (h : Follows start nest table) (hkey : key ∉ nest.keys)
    (hmade : nest.made key = some binding) :
    ∃ entered, table.enter? key = some entered ∧
      Follows start { nest with opened := (key, binding) :: nest.opened } entered := by
  obtain ⟨state, hstate, rfl⟩ := Option.map_eq_some_iff.mp ((h.made key).trans hmade)
  refine ⟨_, by rw [enter?, hstate]; rfl, ?_, fun other ↦ ?_, ?_, ?_⟩
  · change state.binding.inside table.current = _
    rw [Binding.inside_eq_over, h.current]
    rfl
  · by_cases hother : other = key
    · subst hother
      rw [lookup_setName, hmade]
      rfl
    · rw [lookup_setName_of_ne hother, h.made]
  · exact List.nodup_cons.mpr ⟨hkey, h.nodup⟩
  · intro other bound outer hopened
    rcases List.suffix_cons_iff.mp hopened with heq | hopened
    · obtain ⟨hentry, rfl⟩ := List.cons.inj heq
      obtain ⟨rfl, rfl⟩ := Prod.mk.inj hentry
      rw [lookup_setName, h.current]
    · have hne : other ≠ key := fun heq ↦ hkey (heq ▸ mem_keys hopened)
      rw [lookup_setName_of_ne hne, h.saved other bound outer hopened]

private theorem leave {outer : List (String × Binding)} (h : Follows start nest table)
    (hopened : nest.opened = (key, binding) :: outer) :
    ∃ left, table.exit? key = some left ∧ Follows start { nest with opened := outer } left := by
  have hstate := h.saved key binding outer (hopened ▸ List.suffix_rfl)
  have hnodup := h.nodup
  rw [Nest.keys, hopened, List.map_cons, List.nodup_cons] at hnodup
  refine ⟨_, by rw [exit?, hstate]; rfl, rfl, fun other ↦ ?_, hnodup.2, ?_⟩
  · by_cases hother : other = key
    · subst hother
      rw [lookup_setName, ← h.made, hstate]
      rfl
    · rw [lookup_setName_of_ne hother, h.made]
  · intro other bound around hsuffix
    have hmem : other ∈ outer.map Prod.fst :=
      List.mem_map_of_mem (f := Prod.fst) (hsuffix.subset List.mem_cons_self)
    have hne : other ≠ key := fun heq ↦ hnodup.1 (heq ▸ hmem)
    have hsuffix : (other, bound) :: around <:+ nest.opened := by
      rw [hopened]
      exact hsuffix.trans (List.suffix_cons _ _)
    rw [lookup_setName_of_ne hne, h.saved other bound around hsuffix]

theorem step {step : ScopeStep} (h : Follows start nest table)
    (hstep : nest.step? step = some next) :
    ∃ after, table.step? step = some after ∧ Follows start next after := by
  obtain ⟨key, binding, rfl, hkey, rfl⟩ | ⟨key, binding, rfl, hkey, hmade, rfl⟩ |
    ⟨key, binding, outer, rfl, hopened, rfl⟩ := Nest.step?_cases hstep
  · exact ⟨_, rfl, h.make hkey binding⟩
  · exact h.enter hkey hmade
  · exact h.leave hopened

theorem run {steps : List ScopeStep} (h : Follows start nest table)
    (hrun : nest.run? steps = some next) :
    ∃ after, table.run? steps = some after ∧ Follows start next after := by
  induction steps generalizing nest table with
  | nil =>
    obtain rfl := Option.some.inj hrun
    exact ⟨table, rfl, h⟩
  | cons step rest ih =>
    rw [Nest.run?, List.foldlM_cons] at hrun
    obtain ⟨reached, hstep, hrest⟩ := Option.bind_eq_some_iff.mp hrun
    obtain ⟨middle, hmiddle, hfollows⟩ := h.step hstep
    obtain ⟨after, hafter, hlast⟩ := ih hfollows hrest
    refine ⟨after, ?_, hlast⟩
    rw [run?, List.foldlM_cons, hmiddle]
    exact hafter

end Follows

private theorem follows_ofTable (table : ScopeTable) :
    Follows table.current (.ofTable table) table where
  current := rfl
  made _ := rfl
  nodup := List.nodup_nil
  saved _ _ _ h := absurd (List.suffix_nil.mp h) (List.cons_ne_nil _ _)

/-! ## The scope in force -/

/-- **Log scopes nest.** In a properly nested run every step can be taken. After any part of the run
the scope in force is the initial one under all bindings that are open then, the outermost laid over
it first; so it is the initial one as soon as all of them are closed. The table may hold any
bindings at the start, also ones that were entered and never left. -/
theorem current_eq_under_opened (table : ScopeTable) (steps : List ScopeStep)
    (hnested : ((Nest.ofTable table).run? steps).isSome = true) (first : List ScopeStep)
    (hfirst : first <+: steps) :
    ∃ nest reached, (Nest.ofTable table).run? first = some nest ∧
      table.run? first = some reached ∧
      reached.current = table.current.under (nest.opened.map Prod.snd) ∧
      (nest.opened = [] → reached.current = table.current) := by
  obtain ⟨nest, hnest⟩ := Nest.exists_run?_of_isPrefix hfirst hnested
  obtain ⟨reached, hreached, hfollows⟩ := (follows_ofTable table).run hnest
  refine ⟨nest, reached, hnest, hreached, hfollows.current, fun hclosed ↦ ?_⟩
  rw [hfollows.current, hclosed]
  rfl

/-- A unit inside a stage of another one, and a binding that is entered a second time after it was
left: the stage is gone inside the inner unit, and back when that is left. -/
theorem current_eq_under_opened_units :
    let table : ScopeTable := { current := { stage := some "batch" } }
    let first : List ScopeStep :=
      [.make "outer" { unitId := some "1", name := some "a" },
        .make "emit" { stage := some "emit" }, .enter "emit", .leave "emit", .enter "outer",
        .enter "emit", .make "inner" { unitId := some "2" }, .enter "inner"]
    let steps := first ++ [.leave "inner", .leave "emit", .leave "outer"]
    ((Nest.ofTable table).run? steps).isSome = true ∧
      (table.run? first).map ScopeTable.current = some ⟨some "2", none, none⟩ ∧
      (table.run? (first ++ [.leave "inner"])).map ScopeTable.current =
        some ⟨some "1", some "a", some "emit"⟩ ∧
      (table.run? steps).map ScopeTable.current = some table.current := by
  intro table first steps
  have hnested : ((Nest.ofTable table).run? steps).isSome = true := by decide
  refine ⟨hnested, ?_, ?_, ?_⟩
  · obtain ⟨nest, reached, hnest, hreached, hcurrent, -⟩ :=
      current_eq_under_opened table steps hnested first (List.prefix_append _ _)
    rw [hreached, Option.map_some, hcurrent]
    cases hnest
    rfl
  · obtain ⟨nest, reached, hnest, hreached, hcurrent, -⟩ :=
      current_eq_under_opened table steps hnested (first ++ [.leave "inner"]) ⟨_, rfl⟩
    rw [hreached, Option.map_some, hcurrent]
    cases hnest
    rfl
  · obtain ⟨nest, reached, hnest, hreached, -, hclosed⟩ :=
      current_eq_under_opened table steps hnested steps (List.prefix_refl _)
    rw [hreached, Option.map_some, hclosed]
    cases hnest
    rfl

-- A binding that is entered while it is still open forgets the scope from before, so two leaves do
-- not lead back to it.
example :
    let table : ScopeTable := { bindings := [("emit", ⟨{ stage := some "emit" }, none⟩)] }
    let steps : List ScopeStep := [.enter "emit", .enter "emit", .leave "emit", .leave "emit"]
    ((Nest.ofTable table).run? steps).isSome = false ∧
      (table.run? steps).map ScopeTable.current = some { stage := some "emit" } := by
  decide

end ScopeTable

end Runbook
