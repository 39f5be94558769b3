import Runbook.Proofs.RegistrationOrder

/-!
# Calling registered functions

The entry point of the runtime module calls every function in one way: with one argument, by
position. Registration does not ask whether a routine can be called so. It counts inputs instead,
where a parameter that takes all further keywords and a keyword without a default count as one input
each, and it compares the count with one.

For a routine without a declared signature that is enough, since the shape of the input is checked
as well, and such parameters have none (`Registry.accepts_of_undeclared`). A declared signature
replaces the shape, and then one parameter of these kinds passes for the argument that it cannot
take. `Routine.accepts_one_iff` says when a routine with one input can be called after all.
-/

namespace Runbook

/-! ## Calls by position -/

namespace Parameter

/-- The parameter takes exactly one positional argument. -/
def isPositional (parameter : Parameter) : Bool :=
  match parameter.kind with
  | .positional | .positionalOnly => true
  | _ => false

/-- The parameter can take a positional argument. -/
def takesPosition (parameter : Parameter) : Bool :=
  parameter.isPositional || parameter.kind == .variadic

/-- What is left of a number of positional arguments when each parameter has taken its own. There is
no answer if a parameter without a default goes without; keywords are not given at all. -/
def take? : List Parameter → Nat → Option Nat
  | [], given => some given
  | parameter :: rest, given =>
    match parameter.kind with
    | .positional | .positionalOnly =>
      if given = 0 && parameter.default.isNone then none else take? rest (given - 1)
    | .variadic => take? rest 0
    | .keywordOnly => if parameter.default.isSome then take? rest given else none
    | .variadicKeyword => take? rest given

end Parameter

namespace Routine

/-- The routine can be called with a number of positional arguments and nothing else. -/
def Accepts (routine : Routine) (given : Nat) : Prop :=
  Parameter.take? routine.parameters given = some 0

instance (routine : Routine) (given : Nat) : Decidable (routine.Accepts given) :=
  inferInstanceAs (Decidable (_ = _))

/-- What a routine needs to be called with one argument: somebody takes it, nobody else waits for
one, and no keyword has to be given. -/
structure TakesOne (routine : Routine) : Prop where
  taker : ∃ parameter ∈ routine.parameters, parameter.takesPosition = true
  single : (routine.parameters.countP fun parameter ↦
    parameter.isPositional && parameter.default.isNone) ≤ 1
  keywords : ∀ parameter ∈ routine.parameters, parameter.kind = .keywordOnly →
    parameter.default.isSome = true

end Routine

/-! ## Routines with one input -/

namespace Parameter

variable {parameter : Parameter} {parameters front back : List Parameter}

/-- Only a keyword with a default is no input. -/
theorem inputs_eq_nil_iff :
    parameter.inputs = [] ↔ parameter.kind = .keywordOnly ∧ parameter.default.isSome = true := by
  rw [inputs]
  cases parameter.kind with
  | keywordOnly => cases parameter.default <;> simp
  | _ => simp

private theorem takesPosition_of_isStructured {shape : Shape} (h : parameter.inputs = [shape])
    (hshape : shape.isStructured = true) : parameter.takesPosition = true := by
  rw [takesPosition, isPositional]
  cases hkind : parameter.kind with
  | positional | positionalOnly | variadic => rfl
  | keywordOnly =>
    rw [inputs, hkind] at h
    dsimp only at h
    split at h
    · cases h
    · cases h
      cases hshape
  | variadicKeyword =>
    rw [inputs, hkind] at h
    cases h
    cases hshape

/-- Keywords with defaults take nothing and ask for nothing. -/
theorem take?_append (hfront : front.flatMap inputs = []) (given : Nat) :
    take? (front ++ back) given = take? back given := by
  induction front with
  | nil => rfl
  | cons parameter rest ih =>
    rw [List.flatMap_cons, List.append_eq_nil_iff] at hfront
    obtain ⟨hkind, hdefault⟩ := inputs_eq_nil_iff.mp hfront.1
    rw [List.cons_append, take?, hkind]
    dsimp only
    rw [if_pos hdefault]
    exact ih hfront.2

/-- One input comes from one parameter; all others are keywords with defaults. -/
theorem exists_of_flatMap_inputs {shape : Shape} (h : parameters.flatMap inputs = [shape]) :
    ∃ front parameter back, parameters = front ++ parameter :: back ∧
      front.flatMap inputs = [] ∧ parameter.inputs = [shape] ∧ back.flatMap inputs = [] := by
  induction parameters with
  | nil => cases h
  | cons parameter rest ih =>
    rw [List.flatMap_cons, List.append_eq_cons_iff] at h
    rcases h with ⟨hnil, hrest⟩ | ⟨others, hinputs, hnil⟩
    · obtain ⟨front, found, back, rfl, hfront, hfound, hback⟩ := ih hrest
      refine ⟨parameter :: front, found, back, rfl, ?_, hfound, hback⟩
      rw [List.flatMap_cons, hnil, hfront, List.nil_append]
    · obtain ⟨rfl, hrest⟩ := List.append_eq_nil_iff.mp hnil.symm
      exact ⟨[], parameter, rest, rfl, rfl, hinputs, hrest⟩

private theorem kind_of_flatMap_inputs (h : parameters.flatMap inputs = [])
    (hmem : parameter ∈ parameters) :
    parameter.kind = .keywordOnly ∧ parameter.default.isSome = true :=
  inputs_eq_nil_iff.mp (List.flatMap_eq_nil_iff.mp h parameter hmem)

private theorem take?_one_of_inputs {shape : Shape} (h : parameter.inputs = [shape])
    (hback : back.flatMap inputs = []) :
    take? (parameter :: back) 1 = some 0 ↔ parameter.takesPosition = true := by
  have hleft (given : Nat) : take? back given = some given := by
    have hnone : take? (back ++ []) given = take? [] given := take?_append hback given
    rwa [List.append_nil] at hnone
  rw [take?, takesPosition, isPositional]
  cases hkind : parameter.kind with
  | positional | positionalOnly | variadic => simp [hleft]
  | variadicKeyword => simp [hleft]
  | keywordOnly =>
    have hdefault : ¬parameter.default.isSome = true := fun hsome ↦ by
      rw [inputs_eq_nil_iff.mpr ⟨hkind, hsome⟩] at h
      cases h
    simp [hdefault]

end Parameter

namespace Routine

variable {routine : Routine}

/-- **A routine with one input can be called with one argument** exactly if some parameter takes
arguments by position; then nothing else is missing. -/
theorem accepts_one_iff (h : routine.signature.inputs.length = 1) :
    (routine.Accepts 1 ↔ ∃ parameter ∈ routine.parameters, parameter.takesPosition = true) ∧
      (routine.Accepts 1 ↔ routine.TakesOne) := by
  obtain ⟨shape, hshape⟩ := List.length_eq_one_iff.mp h
  obtain ⟨front, parameter, back, hparameters, hfront, hinputs, hback⟩ :=
    Parameter.exists_of_flatMap_inputs hshape
  have haccepts : routine.Accepts 1 ↔ parameter.takesPosition = true := by
    rw [Accepts, hparameters, Parameter.take?_append hfront]
    exact Parameter.take?_one_of_inputs hinputs hback
  -- All other parameters are keywords with defaults.
  have hothers : ∀ other ∈ front ++ back,
      other.kind = .keywordOnly ∧ other.default.isSome = true := by
    intro other hother
    rcases List.mem_append.mp hother with hmem | hmem
    · exact Parameter.kind_of_flatMap_inputs hfront hmem
    · exact Parameter.kind_of_flatMap_inputs hback hmem
  have hmem {other : Parameter} :
      other ∈ routine.parameters ↔ other = parameter ∨ other ∈ front ++ back := by
    rw [hparameters, List.mem_append, List.mem_cons, List.mem_append]
    tauto
  have htaker : (∃ taker ∈ routine.parameters, taker.takesPosition = true) ↔
      parameter.takesPosition = true := by
    constructor
    · rintro ⟨taker, htaker, htakes⟩
      rcases hmem.mp htaker with rfl | hother
      · exact htakes
      · have hkind := (hothers taker hother).1
        simp [Parameter.takesPosition, Parameter.isPositional, hkind] at htakes
    · intro htakes
      exact ⟨parameter, hmem.mpr (.inl rfl), htakes⟩
  refine ⟨haccepts.trans htaker.symm, haccepts.trans ⟨fun htakes ↦ ?_, fun h ↦ htaker.mp h.taker⟩⟩
  refine ⟨htaker.mpr htakes, ?_, fun other hother hkind ↦ ?_⟩
  · have hcount : ∀ part ⊆ front ++ back, (part.countP fun parameter ↦
        parameter.isPositional && parameter.default.isNone) = 0 := by
      intro part hpart
      rw [List.countP_eq_zero]
      intro other hother
      simp [Parameter.isPositional, (hothers other (hpart hother)).1]
    rw [hparameters, List.countP_append, List.countP_cons,
      hcount front (List.subset_append_left _ _), hcount back (List.subset_append_right _ _)]
    split
    · exact Nat.le_refl _
    · exact Nat.zero_le _
  · rcases hmem.mp hother with rfl | hother
    · simp [Parameter.takesPosition, Parameter.isPositional, hkind] at htakes
    · exact (hothers other hother).2

/-- A routine with one input that cannot be called with one argument waits for a keyword, or takes
nothing but keywords. -/
theorem exists_of_not_accepts (h : routine.signature.inputs.length = 1)
    (hnot : ¬routine.Accepts 1) :
    ∃ parameter ∈ routine.parameters, parameter.kind = .variadicKeyword ∨
      parameter.kind = .keywordOnly ∧ parameter.default = none := by
  obtain ⟨shape, hshape⟩ := List.length_eq_one_iff.mp h
  obtain ⟨front, parameter, back, hparameters, -, hinputs, -⟩ :=
    Parameter.exists_of_flatMap_inputs hshape
  have hmem : parameter ∈ routine.parameters := by
    rw [hparameters]
    exact List.mem_append_right _ List.mem_cons_self
  have htakes : ¬parameter.takesPosition = true := fun htakes ↦
    hnot ((accepts_one_iff h).1.mpr ⟨parameter, hmem, htakes⟩)
  refine ⟨parameter, hmem, ?_⟩
  cases hkind : parameter.kind with
  | positional | positionalOnly | variadic =>
    simp [Parameter.takesPosition, Parameter.isPositional, hkind] at htakes
  | variadicKeyword => exact .inl rfl
  | keywordOnly =>
    cases hdefault : parameter.default with
    | none => exact .inr ⟨rfl, rfl⟩
    | some source =>
      rw [Parameter.inputs_eq_nil_iff.mpr ⟨hkind, by rw [hdefault]; rfl⟩] at hinputs
      cases hinputs

end Routine

/-! ## Registered routines -/

namespace Registry

/-- What the check of a signature has found out. -/
theorem checkSignature_eq_ok {name : String} {declared : Option Signature} {routine : Routine}
    {signature : Signature} (h : checkSignature name declared routine = .ok signature) :
    (declared.getD routine.signature).isSingleArgument = true ∧
      routine.signature.inputs.length = 1 := by
  rw [checkSignature] at h
  split at h
  · cases h
  next hsingle =>
  split at h
  · cases h
  next hcount => exact ⟨by simpa using hsingle, by simpa using hcount⟩

/-- Without a declared signature the shape of the input is that of the parameter, and a parameter
that cannot take the argument has none. -/
theorem accepts_of_undeclared {name : String} {routine : Routine} {signature : Signature}
    (h : checkSignature name none routine = .ok signature) : routine.Accepts 1 := by
  obtain ⟨hsingle, hcount⟩ := checkSignature_eq_ok h
  obtain ⟨shape, hshape⟩ := List.length_eq_one_iff.mp hcount
  obtain ⟨front, parameter, back, hparameters, -, hinputs, -⟩ :=
    Parameter.exists_of_flatMap_inputs hshape
  rw [Option.getD_none, Signature.isSingleArgument, hshape] at hsingle
  have hstructured : shape.isStructured = true := (Bool.and_eq_true_iff.mp hsingle).1
  refine (Routine.accepts_one_iff hcount).1.mpr ⟨parameter, ?_, ?_⟩
  · rw [hparameters]
    exact List.mem_append_right _ List.mem_cons_self
  · exact Parameter.takesPosition_of_isStructured hinputs hstructured

namespace Call

variable {ε : Type} {nameless : ε} {state : BuildState} {call : Call}
  {next : Except (BuildError ε) Answer × BuildState} {handle : Handle}

private theorem Outcome.owner_eq (h : Outcome nameless state call next) :
    next.2.context.registry.owner = state.context.registry.owner := by
  cases h with
  | registered _ hregister hafter =>
    rw [hafter, (register_eq_ok hregister).2]
  | refused | nameless | asked | closed => rfl

/-- A function that is there after a call was there before, or the call has registered it. -/
theorem Outcome.describes (h : Outcome nameless state call next)
    (hmem : handle ∈ next.2.context.registry.functions) :
    handle ∈ state.context.registry.functions ∨
      ∃ registration, call.registration? = some registration ∧
        registration.Describes state.context.registry.owner handle := by
  cases h with
  | registered hcall hregister hafter =>
    obtain ⟨hhandle, rfl⟩ := register_eq_ok hregister
    rw [hafter, List.mem_append, List.mem_singleton] at hmem
    rcases hmem with hold | rfl
    · exact .inl hold
    · exact .inr ⟨_, hcall, describes_of_handleFor hhandle⟩
  | refused | nameless | asked => exact .inl hmem
  | closed => exact absurd hmem List.not_mem_nil

private theorem describes_perform (calls : List Call)
    (hmem : handle ∈ (perform nameless calls state).2.context.registry.functions) :
    handle ∈ state.context.registry.functions ∨
      ∃ call ∈ calls, ∃ registration, call.registration? = some registration ∧
        registration.Describes state.context.registry.owner handle := by
  induction calls generalizing state with
  | nil => exact .inl hmem
  | cons call rest ih =>
    have houtcome := outcome_action nameless state call
    rcases ih hmem with hnext | ⟨other, hother, registration, hcall, hdescribes⟩
    · rcases houtcome.describes hnext with hold | ⟨registration, hcall, hdescribes⟩
      · exact .inl hold
      · exact .inr ⟨call, List.mem_cons_self, registration, hcall, hdescribes⟩
    · rw [houtcome.owner_eq] at hdescribes
      exact .inr ⟨other, List.mem_cons_of_mem _ hother, registration, hcall, hdescribes⟩

end Call

end Registry

end Runbook
