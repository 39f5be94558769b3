import Mathlib.Data.List.Nodup
import Runbook.Build.Action

/-!
# Registering functions

All functions of a build end up in one module, so no name may mean two things there. The check that
a registration makes is one-sided: the new lines against the names that are taken, and the new name
against the lines that are there. `Registry.IsConsistent` is the symmetric property that follows for
the whole registry; registering and closing keep it.

The second half is about calls on the registry of a build, one after the other, with their answers.
A call either appends one function, or closes the registry, or leaves the build as it was.
-/

namespace Runbook

theorem bind_eq_ok_iff {ε α β : Type} {first : Except ε α} {next : α → Except ε β} {result : β} :
    first >>= next = .ok result ↔ ∃ middle, first = .ok middle ∧ next middle = .ok result := by
  cases first with
  | error error => simp [bind, Except.bind]
  | ok middle => simp [bind, Except.bind]

namespace Registry

variable {registry : Registry} {registration : Registration} {handle : Handle}

/-! ## What a registration checks -/

theorem clashes_eq_nil_iff {name : String} {lines : List String} :
    registry.clashes name lines = [] ↔
      (∀ bound ∈ lines.map boundName, bound ∉ runtimeNames ∧ bound ∉ registry.names ∧
        bound ≠ name) ∧
      ∀ other ∈ registry.functions, name ∉ other.boundNames := by
  simp only [List.eq_nil_iff_forall_not_mem, clashes, Text.mem_sort, Text.mem_distinct,
    List.mem_append, List.mem_filter, List.contains_iff_mem, not_or, not_and]
  constructor
  · intro h
    refine ⟨fun bound hbound ↦ ?_, fun other hother hname ↦ ?_⟩
    · have hfree := (h bound).1 hbound
      simp only [List.mem_singleton] at hfree
      exact ⟨hfree.1.1, hfree.1.2, hfree.2⟩
    · have hany : (registry.functions.any fun other ↦ other.boundNames.contains name) = true :=
        List.any_eq_true.mpr ⟨other, hother, List.contains_iff_mem.mpr hname⟩
      exact (h name).2 (by rw [if_pos hany]; exact List.mem_singleton_self _)
  · rintro ⟨hlines, hothers⟩ clash
    have hany : ¬(registry.functions.any fun other ↦ other.boundNames.contains name) = true := by
      rw [List.any_eq_true]
      rintro ⟨other, hother, hname⟩
      exact hothers other hother (List.contains_iff_mem.mp hname)
    rw [if_neg hany]
    refine ⟨fun hclash ↦ ?_, List.not_mem_nil⟩
    obtain ⟨hruntime, hnames, hname⟩ := hlines clash hclash
    exact ⟨⟨hruntime, hnames⟩, by simpa using hname⟩

/-- The function may join those of the registry. -/
structure Admits (registry : Registry) (handle : Handle) : Prop where
  opened : registry.closed = false
  valid : isFunctionName handle.name = true
  notReserved : handle.name ∉ runtimeNames
  fresh : handle.name ∉ registry.names
  bound : ∀ name ∈ handle.boundNames, name ∉ runtimeNames ∧ name ∉ registry.names ∧
    name ≠ handle.name
  free : ∀ other ∈ registry.functions, handle.name ∉ other.boundNames

private theorem checkName_eq_ok {name : String} (h : registry.checkName name = .ok ()) :
    isFunctionName name = true ∧ name ∉ runtimeNames ∧ name ∉ registry.names := by
  rw [checkName] at h
  split at h
  · cases h
  split at h
  · cases h
  split at h
  · cases h
  next hvalid hreserved hfresh =>
  refine ⟨by simpa using hvalid, fun hmem ↦ hreserved ?_, fun hmem ↦ hfresh ?_⟩
  · exact List.contains_iff_mem.mpr hmem
  · exact List.contains_iff_mem.mpr hmem

/-- All that a successful registration has found out. -/
theorem handleFor_eq_ok (h : registry.handleFor registration = .ok handle) :
    handle.name = registration.name ∧ registry.Admits handle ∧
      registration.body.relocate handle.name = .ok handle.source ∧
      registration.body.dependencies handle.name = .ok ⟨handle.imports, handle.constants⟩ := by
  rw [handleFor] at h
  split at h
  · cases h
  next hopened =>
  obtain ⟨⟨⟩, hname, h⟩ := bind_eq_ok_iff.mp h
  obtain ⟨hvalid, hreserved, hfresh⟩ := checkName_eq_ok hname
  split at h
  · cases h
  next routine hbody =>
  obtain ⟨signature, -, h⟩ := bind_eq_ok_iff.mp h
  obtain ⟨source, hsource, h⟩ := bind_eq_ok_iff.mp h
  obtain ⟨needed, hneeded, h⟩ := bind_eq_ok_iff.mp h
  dsimp only at h
  split at h
  · next hclashes =>
    obtain rfl := Except.ok.inj h
    obtain ⟨hbound, hfree⟩ := clashes_eq_nil_iff.mp (List.isEmpty_iff.mp hclashes)
    exact ⟨rfl, ⟨by simpa using hopened, hvalid, hreserved, hfresh, hbound, hfree⟩, hsource,
      hneeded⟩
  · cases h

theorem register_eq_ok {next : Registry} (h : registry.register registration = .ok (handle, next)) :
    registry.handleFor registration = .ok handle ∧
      next = { registry with functions := registry.functions ++ [handle] } := by
  rw [register] at h
  obtain ⟨made, hmade, h⟩ := bind_eq_ok_iff.mp h
  cases h
  exact ⟨hmade, rfl⟩

theorem register_of_closed (h : registry.closed = true) (registration : Registration) :
    registry.register registration = .error ⟨registration.name, .registryClosed⟩ := by
  rw [register, handleFor, if_pos h]
  rfl

/-! ## Consistent registries -/

/-- No name has two meanings among the names of the functions, the names that the module uses for
itself, and the names that the lines of the functions bind. -/
structure IsConsistent (registry : Registry) : Prop where
  nodup : registry.names.Nodup
  valid : ∀ name ∈ registry.names, isFunctionName name = true ∧ name ∉ runtimeNames
  bound : ∀ handle ∈ registry.functions, ∀ name ∈ handle.boundNames,
    name ∉ registry.names ∧ name ∉ runtimeNames
  empty : registry.closed = true → registry.functions = []

theorem isConsistent_of_functions (h : registry.functions = []) : registry.IsConsistent where
  empty := fun _ ↦ h
  nodup := by rw [names, h]; exact List.nodup_nil
  valid := by rw [names, h]; exact fun _ hmem ↦ absurd hmem List.not_mem_nil
  bound := by rw [h]; exact fun _ hmem ↦ absurd hmem List.not_mem_nil

theorem IsConsistent.append (h : registry.IsConsistent) (hadmits : registry.Admits handle) :
    { registry with functions := registry.functions ++ [handle] }.IsConsistent := by
  have hnames : { registry with functions := registry.functions ++ [handle] }.names =
      registry.names ++ [handle.name] := by
    rw [names, List.map_append]
    rfl
  constructor
  · rw [hnames]
    exact h.nodup.append (List.nodup_singleton _) (by simpa using hadmits.fresh)
  · rw [hnames]
    intro name hname
    rcases List.mem_append.mp hname with hold | hnew
    · exact h.valid name hold
    · rw [List.mem_singleton.mp hnew]
      exact ⟨hadmits.valid, hadmits.notReserved⟩
  · -- Old lines against the new name are the reverse of what was checked for the new lines.
    rw [hnames]
    intro other hother name hname
    rw [List.mem_append, List.mem_singleton, not_or]
    rcases List.mem_append.mp hother with hold | hnew
    · obtain ⟨hfree, hreserved⟩ := h.bound other hold name hname
      refine ⟨⟨hfree, ?_⟩, hreserved⟩
      rintro rfl
      exact hadmits.free other hold hname
    · rw [List.mem_singleton.mp hnew] at hname
      obtain ⟨hreserved, hfree, hne⟩ := hadmits.bound name hname
      exact ⟨⟨hfree, hne⟩, hreserved⟩
  · intro hclosed
    exact absurd (hadmits.opened.symm.trans hclosed) Bool.false_ne_true

theorem IsConsistent.register {next : Registry} (h : registry.IsConsistent)
    (hregister : registry.register registration = .ok (handle, next)) : next.IsConsistent := by
  obtain ⟨hhandle, rfl⟩ := register_eq_ok hregister
  exact h.append (handleFor_eq_ok hhandle).2.1

end Registry

/-! ## Registering in a build -/

namespace Build

variable {ε : Type}

@[simp]
theorem outcome_context (state : BuildState) :
    (context : Build ε Context).outcome state = (.ok state.context, state) := rfl

@[simp]
theorem outcome_modify (f : BuildState → BuildState) (state : BuildState) :
    (modify f : Build ε PUnit).outcome state = (.ok (), f state) := rfl

/-- A failed registration leaves the build as it was. -/
theorem outcome_register_of_error {registration : Registration} {state : BuildState}
    {error : RegistrationError} (h : state.context.registry.register registration = .error error) :
    (register registration : Build ε Handle).outcome state =
      (.error (.registration error), state) := by
  simp [register, outcome_bind, h, lift]

theorem outcome_register_of_ok {registration : Registration} {state : BuildState} {handle : Handle}
    {registry : Registry}
    (h : state.context.registry.register registration = .ok (handle, registry)) :
    ∃ after, (register registration : Build ε Handle).outcome state = (.ok handle, after) ∧
      after.context.registry = registry := by
  simp only [register, outcome_bind, outcome_context, outcome_modify, outcome_pure, h, lift, log]
  exact ⟨_, rfl, rfl⟩

end Build

/-! ## Calls -/

namespace Registry

/-- A question to a registry. -/
inductive Query where
  | get (name : String)
  | contains (name : String)
  | names
  | functions
  | size
  | closed

/-- A call on the registry of a build. -/
inductive Call where
  | register (registration : Registration)
  /-- Registers a body under the given name, or under its own if that is empty. -/
  | stage (name : String) (signature : Option Signature) (body : Body)
  | ask (query : Query)
  | close

/-- What a call returns. -/
inductive Answer where
  /-- The handle of a function that was registered. -/
  | handle (handle : Handle)
  | found (handle : Option Handle)
  | truth (value : Bool)
  | names (names : List String)
  | functions (functions : List Handle)
  | size (size : Nat)
  | done

def Query.answer (registry : Registry) : Query → Answer
  | .get name => .found (registry.get? name)
  | .contains name => .truth (registry.contains name)
  | .names => .names registry.names
  | .functions => .functions registry.functions
  | .size => .size registry.size
  | .closed => .truth registry.closed

namespace Call

variable {ε : Type}

def registers : Call → Bool
  | .register _ | .stage .. => true
  | _ => false

/-- What is registered; there is nothing if a body without a name is to keep it. -/
def registration? : Call → Option Registration
  | .register registration => some registration
  | .stage name signature body => Registration.named? name signature body
  | _ => none

private theorem registers_of_registration? {call : Call} {registration : Registration}
    (h : call.registration? = some registration) : call.registers = true := by
  cases call with
  | register | stage => rfl
  | ask | close => cases h

private theorem ne_close {call : Call} (h : call.registers = true) : call ≠ .close := by
  rintro rfl
  cases h

/-- What a call does to the build. `nameless` is the failure for a body without a name. -/
def action (nameless : ε) : Call → Build ε Answer
  | .register registration => return .handle (← Build.register registration)
  | .stage name signature body =>
    match Registration.named? name signature body with
    | none => throw (.source nameless)
    | some registration => return .handle (← Build.register registration)
  | .ask query => return query.answer (← Build.context).registry
  | .close => do
    modify fun state ↦ { state with context := state.context.close }
    return .done

variable {nameless : ε} {state : BuildState} {call : Call}
  {next : Except (BuildError ε) Answer × BuildState}

/-- All that a call can do. -/
inductive Outcome (nameless : ε) (state : BuildState) :
    Call → Except (BuildError ε) Answer × BuildState → Prop
  | registered {call : Call} {registration : Registration} {handle : Handle} {registry : Registry}
      {after : BuildState} (hcall : call.registration? = some registration)
      (hregister : state.context.registry.register registration = .ok (handle, registry))
      (hafter : after.context.registry = registry) :
      Outcome nameless state call (.ok (.handle handle), after)
  | refused {call : Call} {registration : Registration} {error : RegistrationError}
      (hcall : call.registration? = some registration)
      (hregister : state.context.registry.register registration = .error error) :
      Outcome nameless state call (.error (.registration error), state)
  | nameless {call : Call} (hcall : call.registers = true) (hname : call.registration? = none) :
      Outcome nameless state call (.error (.source nameless), state)
  | asked (query : Query) :
      Outcome nameless state (.ask query) (.ok (query.answer state.context.registry), state)
  | closed : Outcome nameless state .close
      (.ok .done, { state with context := state.context.close })

private theorem outcome_of_register {registration : Registration}
    (hcall : call.registration? = some registration) :
    Outcome nameless state call
      ((do return .handle (← Build.register registration) : Build ε Answer).outcome state) := by
  rw [Build.outcome_bind]
  cases h : state.context.registry.register registration with
  | error error =>
    rw [Build.outcome_register_of_error h]
    exact .refused hcall h
  | ok made =>
    obtain ⟨after, houtcome, hafter⟩ := Build.outcome_register_of_ok (ε := ε) h
    rw [houtcome]
    exact .registered hcall h hafter

theorem outcome_action (nameless : ε) (state : BuildState) (call : Call) :
    Outcome nameless state call ((call.action nameless).outcome state) := by
  cases call with
  | register registration => exact outcome_of_register rfl
  | stage name signature body =>
    rw [action]
    split
    · next h => exact .nameless rfl h
    · next registration h => exact outcome_of_register h
  | ask query => exact .asked query
  | close => exact .closed

/-- The function that a call registered, if it did. -/
def granted? : Except (BuildError ε) Answer → Option Handle
  | .ok (.handle handle) => some handle
  | _ => none

/-- Why a closed registry refuses to register. -/
def refusal (nameless : ε) (call : Call) : BuildError ε :=
  match call.registration? with
  | some registration => .registration ⟨registration.name, .registryClosed⟩
  | none => .source nameless

private theorem granted?_answer (query : Query) (registry : Registry) :
    granted? (.ok (query.answer registry) : Except (BuildError ε) Answer) = none := by
  cases query <;> rfl

namespace Outcome

/-! ### One call -/

private theorem isConsistent (h : Outcome nameless state call next)
    (hstate : state.context.registry.IsConsistent) : next.2.context.registry.IsConsistent := by
  cases h with
  | registered _ hregister hafter => exact hafter ▸ hstate.register hregister
  | refused | nameless | asked => exact hstate
  | closed => exact Registry.isConsistent_of_functions rfl

private theorem closed_iff (h : Outcome nameless state call next) :
    next.2.context.registry.closed = true ↔
      state.context.registry.closed = true ∨ call = .close := by
  cases h with
  | registered hcall hregister hafter =>
    rw [hafter, (Registry.register_eq_ok hregister).2]
    simp [ne_close (registers_of_registration? hcall)]
  | refused hcall => simp [ne_close (registers_of_registration? hcall)]
  | nameless hcall => simp [ne_close hcall]
  | asked => simp
  | closed => simp [Context.close, Registry.close]

private theorem functions_eq (h : Outcome nameless state call next) (hcall : call ≠ .close) :
    next.2.context.registry.functions =
      state.context.registry.functions ++ (granted? next.1).toList := by
  cases h with
  | registered _ hregister hafter =>
    rw [hafter, (Registry.register_eq_ok hregister).2]
    rfl
  | refused | nameless => simp [granted?]
  | asked query => simp [granted?_answer]
  | closed => exact absurd rfl hcall

private theorem eq_refusal (h : Outcome nameless state call next)
    (hclosed : state.context.registry.closed = true) (hcall : call.registers = true) :
    next = (.error (call.refusal nameless), state) := by
  cases h with
  | registered _ hregister =>
    rw [Registry.register_of_closed hclosed] at hregister
    cases hregister
  | refused hregistration hregister =>
    rw [Registry.register_of_closed hclosed] at hregister
    cases hregister
    rw [refusal, hregistration]
  | nameless _ hname => rw [refusal, hname]
  | asked | closed => cases hcall

private theorem eq_of_error (h : Outcome nameless state call next) {error : BuildError ε}
    (herror : next.1 = .error error) : next.2 = state := by
  cases h with
  | registered | asked | closed => cases herror
  | refused | nameless => rfl

private theorem eq_nameless (h : Outcome nameless state call next)
    (hregisters : call.registers = true) (hname : call.registration? = none) :
    next = (.error (.source nameless), state) := by
  cases h with
  | registered hcall | refused hcall =>
    rw [hname] at hcall
    cases hcall
  | nameless => rfl
  | asked | closed => cases hregisters

private theorem of_granted (h : Outcome nameless state call next) {handle : Handle}
    (hgranted : granted? next.1 = some handle) :
    (call.registration?.map Registration.name = some handle.name) ∧
      next.2.context.registry.functions = state.context.registry.functions ++ [handle] := by
  cases h with
  | registered hcall hregister hafter =>
    cases hgranted
    obtain ⟨hhandle, rfl⟩ := Registry.register_eq_ok hregister
    rw [hcall, hafter, (Registry.handleFor_eq_ok hhandle).1]
    exact ⟨rfl, rfl⟩
  | refused | nameless | closed => cases hgranted
  | asked query =>
    rw [granted?_answer] at hgranted
    cases hgranted

end Outcome

/-! ### One call after the other -/

/-- The answers to calls that are made one after the other, and the build after them. -/
def perform (nameless : ε) :
    List Call → BuildState → List (Except (BuildError ε) Answer) × BuildState
  | [], state => ([], state)
  | call :: rest, state =>
    let next := (call.action nameless).outcome state
    let run := perform nameless rest next.2
    (next.1 :: run.1, run.2)

private theorem isConsistent_perform (calls : List Call) (h : state.context.registry.IsConsistent) :
    (perform nameless calls state).2.context.registry.IsConsistent := by
  induction calls generalizing state with
  | nil => exact h
  | cons call rest ih => exact ih ((outcome_action nameless state call).isConsistent h)

private theorem closed_perform_iff (calls : List Call) :
    (perform nameless calls state).2.context.registry.closed = true ↔
      state.context.registry.closed = true ∨ .close ∈ calls := by
  induction calls generalizing state with
  | nil => simp [perform]
  | cons call rest ih =>
    rw [perform, ih, (outcome_action nameless state call).closed_iff, List.mem_cons, or_assoc,
      @eq_comm _ call]

private theorem functions_perform {calls : List Call} (h : .close ∉ calls) :
    (perform nameless calls state).2.context.registry.functions =
      state.context.registry.functions ++ (perform nameless calls state).1.filterMap granted? := by
  induction calls generalizing state with
  | nil => simp [perform]
  | cons call rest ih =>
    rw [List.mem_cons, not_or] at h
    have hcall := (outcome_action nameless state call).functions_eq (Ne.symm h.1)
    rw [perform, ih h.2, hcall, List.append_assoc, List.filterMap_cons]
    cases granted? ((call.action nameless).outcome state).1 <;> rfl

/-- **The registry of a build stays consistent, whatever is called.** After any calls, successful or
failing, its names are different, valid and not reserved, and no line of a function binds one of
them. Its functions are those that the calls registered, in their order, until it is closed; then it
is empty for good. Of the next call: a function that it registers has the name that was asked for
and comes last; if it fails, nothing has changed; and a closed registry refuses every function. A
body without a name that is to keep it fails before the registry is asked at all, be it closed or
not. -/
theorem registry_perform (nameless : ε) (unitId : String) (config : Config) (name : String)
    (calls : List Call) :
    let run := perform nameless calls { context := .create unitId config name }
    let registry := run.2.context.registry
    registry.IsConsistent ∧
      registry.functions = (if registry.closed then [] else run.1.filterMap granted?) ∧
      (registry.closed = true ↔ .close ∈ calls) ∧
      ∀ call : Call,
        let next := (call.action nameless).outcome run.2
        (∀ handle, granted? next.1 = some handle →
          call.registration?.map Registration.name = some handle.name ∧
            next.2.context.registry.functions = registry.functions ++ [handle]) ∧
        (∀ error, next.1 = .error error → next.2 = run.2) ∧
        (registry.closed = true → call.registers = true →
          next = (.error (call.refusal nameless), run.2)) ∧
        (call.registers = true → call.registration? = none →
          next = (.error (.source nameless), run.2)) := by
  intro run registry
  have hconsistent : registry.IsConsistent :=
    isConsistent_perform calls (Registry.isConsistent_of_functions rfl)
  have hclosed : registry.closed = true ↔ .close ∈ calls :=
    (closed_perform_iff calls).trans (by simp [Context.create])
  refine ⟨hconsistent, ?_, hclosed, fun call ↦ ?_⟩
  · split
    · next h => exact hconsistent.empty h
    · next h => exact functions_perform (mt hclosed.mpr h)
  · have houtcome := outcome_action nameless run.2 call
    exact ⟨fun _ ↦ houtcome.of_granted, fun _ ↦ houtcome.eq_of_error, houtcome.eq_refusal,
      houtcome.eq_nameless⟩

/-- After closing, not every call to register is refused by the registry: a body without a name that
is to keep it fails first. -/
theorem not_registryClosed_of_nameless :
    ¬∀ (calls : List Call) (call : Call), .close ∈ calls → call.registers = true →
      ∃ name, ((call.action ()).outcome
          (perform () calls { context := .create "" {} "document" }).2).1 =
        .error (.registration ⟨name, .registryClosed⟩) := by
  intro h
  let body : Body := .callable
    { name := none, parameters := [⟨"args", .positional, .missing, none⟩],
      source := .unavailable (sourcelessReason "InstanceBody") }
  obtain ⟨name, hname⟩ := h [.close] (.stage "" none body) List.mem_cons_self rfl
  cases hname

-- Two functions that share a constant, a name that is taken, and one that the constant has.
example :
    let code : Code := { names := .node ["LIMIT"] [], globals := [("LIMIT", .value (.int 1))] }
    let body (name : String) : Body := .callable
      { name := some name, parameters := [⟨"args", .positional, .missing, none⟩],
        source := .definition ["return args"], code := some code }
    let calls : List Call := [.stage "" none (body "f"), .register ⟨"g", none, body "f"⟩,
      .stage "f" none (body "g"), .register ⟨"LIMIT", none, body "f"⟩]
    let run := perform () calls { context := .create "" {} "document" }
    run.2.context.registry.names = ["f", "g"] ∧ (run.1.filterMap granted?).length = 2 := by
  decide +kernel

end Call

end Registry

end Runbook
