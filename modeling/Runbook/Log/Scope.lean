import Runbook.Value.Key

/-!
# Log scopes

Every record says which unit is being compiled and at which stage. A binding changes that for a
while: one that names a unit replaces everything, since a new unit is at no stage yet, and one that
names none keeps whatever it does not give itself.

A binding may be entered and left at any time. Leaving it restores the scope that was in force when
it was entered last, and leaving it again does nothing.
-/

namespace Runbook

/-- The unit that is being compiled, and the stage of its compilation. -/
structure Scope where
  unitId : Option String := none
  name : Option String := none
  stage : Option String := none
deriving DecidableEq, Repr, Inhabited

/-- What a part of the program binds in the scope. -/
structure Binding where
  unitId : Option String := none
  name : Option String := none
  stage : Option String := none
deriving DecidableEq, Repr, Inhabited

/-- The scope inside a binding. -/
def Binding.inside (binding : Binding) (outer : Scope) : Scope :=
  match binding.unitId with
  | some unitId => ⟨some unitId, binding.name, binding.stage⟩
  | none =>
    ⟨outer.unitId, binding.name <|> outer.name, binding.stage <|> outer.stage⟩

@[simp]
theorem Binding.inside_of_unit (unitId : String) (name stage : Option String) (outer : Scope) :
    Binding.inside ⟨some unitId, name, stage⟩ outer = ⟨some unitId, name, stage⟩ := rfl

@[simp]
theorem Binding.inside_nothing (outer : Scope) : Binding.inside {} outer = outer := rfl

/-- A binding, and the scope that leaving it restores. -/
structure BindingState where
  binding : Binding
  saved : Option Scope := none
deriving DecidableEq, Repr, Inhabited

/-- The scope in force, and the bindings that were made so far, each under a name. -/
structure ScopeTable where
  current : Scope := {}
  bindings : List (String × BindingState) := []
deriving DecidableEq, Repr, Inhabited

namespace ScopeTable

/-- Makes a binding without entering it. -/
def declare (table : ScopeTable) (key : String) (binding : Binding) : ScopeTable :=
  { table with bindings := setName key ⟨binding, none⟩ table.bindings }

/-- Enters a binding, if there is one under that name. -/
def enter? (table : ScopeTable) (key : String) : Option ScopeTable :=
  (table.bindings.lookup key).map fun state ↦
    { current := state.binding.inside table.current
      bindings := setName key { state with saved := some table.current } table.bindings }

/-- Leaves a binding, if there is one under that name. -/
def exit? (table : ScopeTable) (key : String) : Option ScopeTable :=
  (table.bindings.lookup key).map fun state ↦
    match state.saved with
    | none => table
    | some outer =>
      { current := outer
        bindings := setName key { state with saved := none } table.bindings }

end ScopeTable

end Runbook
