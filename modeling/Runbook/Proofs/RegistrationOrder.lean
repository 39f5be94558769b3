import Mathlib.Data.List.Forall2
import Mathlib.Data.List.Perm.Basic
import Runbook.Proofs.ModuleNames

/-!
# The order of registrations

Each registration is checked against the functions that are there already, so whether it succeeds
seems to depend on what came before it. But what is compared are two functions at a time: the new
name with the names and the lines of the other one, and the new lines with its name. Taken together
these comparisons are symmetric (`Handle.Tolerates`), and all else that is checked does not depend
on the other functions.

So functions can be registered one after the other exactly if each of them could be registered
alone and any two tolerate each other (`Registry.registerAll_eq_ok_iff`). Neither of the two
conditions mentions an order.
-/

namespace Runbook

/-! ## Functions that tolerate each other -/

namespace Handle

/-- Both functions can stand in one module: they have different names, and neither of them needs a
line that binds the name of the other. -/
structure Tolerates (handle other : Handle) : Prop where
  name_ne : handle.name ≠ other.name
  free : handle.name ∉ other.boundNames
  bound : other.name ∉ handle.boundNames

variable {handle other : Handle}

theorem Tolerates.symm (h : handle.Tolerates other) : other.Tolerates handle :=
  ⟨h.name_ne.symm, h.bound, h.free⟩

/-- Among functions with different names, the name tells which one is found. -/
theorem find?_name_eq_some_iff {functions : List Handle} {name : String}
    (h : (functions.map Handle.name).Nodup) :
    functions.find? (·.name == name) = some handle ↔ handle ∈ functions ∧ handle.name = name := by
  constructor
  · intro hfind
    exact ⟨List.mem_of_find?_eq_some hfind, by simpa using List.find?_some hfind⟩
  · rintro ⟨hmem, rfl⟩
    cases hfind : functions.find? (·.name == handle.name) with
    | none =>
      have hnone := List.find?_eq_none.mp hfind handle hmem
      simp at hnone
    | some found =>
      have hname : found.name = handle.name := by simpa using List.find?_some hfind
      rw [List.inj_on_of_nodup_map h (List.mem_of_find?_eq_some hfind) hmem hname]

private theorem nodup_names_of_pairwise {functions : List Handle}
    (h : functions.Pairwise Tolerates) :
    (functions.map Handle.name).Nodup :=
  List.pairwise_map.mpr (h.imp Tolerates.name_ne)

private theorem find?_name_perm {functions others : List Handle} (hperm : functions.Perm others)
    (h : functions.Pairwise Tolerates) (name : String) :
    functions.find? (·.name == name) = others.find? (·.name == name) := by
  have hfunctions := nodup_names_of_pairwise h
  have hothers : (others.map Handle.name).Nodup := (hperm.map _).nodup_iff.mp hfunctions
  ext handle
  rw [find?_name_eq_some_iff hfunctions, find?_name_eq_some_iff hothers, hperm.mem_iff]

end Handle

/-- What a registration comes to apart from the registry: the handle has the asked name and
signature, and the source and the lines of the body. -/
structure Registration.Describes (owner : String) (registration : Registration) (handle : Handle) :
    Prop where
  owner : handle.owner = some owner
  name : handle.name = registration.name
  body : ∃ routine, registration.body = .callable routine ∧ handle.isAsync = routine.isAsync ∧
    Registry.checkSignature handle.name registration.signature routine = .ok handle.signature
  source : registration.body.relocate handle.name = .ok handle.source
  lines : registration.body.dependencies handle.name = .ok ⟨handle.imports, handle.constants⟩

namespace Registry

variable {registry : Registry} {registration : Registration} {handle other : Handle}

/-! ## One registration -/

theorem Admits.checkName (h : registry.Admits handle) :
    registry.checkName handle.name = .ok () := by
  have hreserved : runtimeNames.contains handle.name = false := by
    simpa using h.notReserved
  have hfresh : registry.contains handle.name = false := by
    simpa [contains] using h.fresh
  rw [Registry.checkName, h.valid, hreserved, hfresh]
  rfl

theorem Admits.clashes (h : registry.Admits handle) :
    registry.clashes handle.name (handle.imports ++ handle.constants) = [] :=
  clashes_eq_nil_iff.mpr ⟨h.bound, h.free⟩

theorem describes_of_handleFor (h : registry.handleFor registration = .ok handle) :
    registration.Describes registry.owner handle := by
  obtain ⟨hname, -, hsource, hlines⟩ := handleFor_eq_ok h
  rw [handleFor] at h
  split at h
  · cases h
  obtain ⟨⟨⟩, -, h⟩ := bind_eq_ok_iff.mp h
  split at h
  · cases h
  next routine hbody =>
  obtain ⟨signature, hsignature, h⟩ := bind_eq_ok_iff.mp h
  obtain ⟨source, -, h⟩ := bind_eq_ok_iff.mp h
  obtain ⟨needed, -, h⟩ := bind_eq_ok_iff.mp h
  dsimp only at h
  split at h
  · obtain rfl := Except.ok.inj h
    exact ⟨rfl, hname, ⟨routine, hbody, rfl, hsignature⟩, hsource, hlines⟩
  · cases h

/-- A registration succeeds exactly if the registry admits what it describes. -/
theorem handleFor_eq_ok_iff :
    registry.handleFor registration = .ok handle ↔
      registration.Describes registry.owner handle ∧ registry.Admits handle := by
  constructor
  · exact fun h ↦ ⟨describes_of_handleFor h, (handleFor_eq_ok h).2.1⟩
  · rintro ⟨⟨howner, hname, ⟨routine, hbody, hasync, hsignature⟩, hsource, hlines⟩, hadmits⟩
    have hclashes : registry.clashes handle.name
        (Dependencies.lines ⟨handle.imports, handle.constants⟩) = [] := hadmits.clashes
    rw [handleFor, hadmits.opened, ← hname, hadmits.checkName, hsource, hlines, hbody]
    simp only [if_neg Bool.false_ne_true, hsignature]
    change (if (registry.clashes handle.name _).isEmpty = true then _ else _) = _
    rw [hclashes, ← howner, ← hasync]
    rfl

private theorem admits_append_iff :
    { registry with functions := registry.functions ++ [other] }.Admits handle ↔
      registry.Admits handle ∧ handle.Tolerates other := by
  have hnames : { registry with functions := registry.functions ++ [other] }.names =
      registry.names ++ [other.name] := List.map_append
  constructor
  · rintro ⟨hopened, hvalid, hreserved, hfresh, hbound, hfree⟩
    rw [hnames, List.mem_append, not_or, List.mem_singleton] at hfresh
    refine ⟨⟨hopened, hvalid, hreserved, hfresh.1, fun name hname ↦ ?_, fun old hold ↦ ?_⟩, ?_⟩
    · obtain ⟨hruntime, hnew, hself⟩ := hbound name hname
      rw [hnames, List.mem_append, not_or] at hnew
      exact ⟨hruntime, hnew.1, hself⟩
    · exact hfree old (List.mem_append_left _ hold)
    · refine ⟨hfresh.2, hfree other (List.mem_append_right _ (List.mem_singleton_self _)), ?_⟩
      intro hmem
      obtain ⟨-, hnew, -⟩ := hbound other.name hmem
      rw [hnames, List.mem_append, not_or] at hnew
      exact hnew.2 (List.mem_singleton_self _)
  · rintro ⟨⟨hopened, hvalid, hreserved, hfresh, hbound, hfree⟩, hname, hother, hneeded⟩
    refine ⟨hopened, hvalid, hreserved, ?_, fun name hmem ↦ ?_, fun old hold ↦ ?_⟩
    · rw [hnames, List.mem_append, not_or, List.mem_singleton]
      exact ⟨hfresh, hname⟩
    · obtain ⟨hruntime, hold, hself⟩ := hbound name hmem
      rw [hnames, List.mem_append, not_or, List.mem_singleton]
      refine ⟨hruntime, ⟨hold, ?_⟩, hself⟩
      rintro rfl
      exact hneeded hmem
    · rcases List.mem_append.mp hold with hold | hnew
      · exact hfree old hold
      · rwa [List.mem_singleton.mp hnew]

/-- One more function in the registry is one more function to tolerate. -/
theorem handleFor_append_iff :
    { registry with functions := registry.functions ++ [other] }.handleFor registration =
        .ok handle ↔
      registry.handleFor registration = .ok handle ∧ handle.Tolerates other := by
  rw [handleFor_eq_ok_iff, handleFor_eq_ok_iff, admits_append_iff, and_assoc]

/-! ## Registrations one after the other -/

private theorem forall₂_handleFor_append_iff {registrations : List Registration}
    {handles : List Handle} :
    List.Forall₂ (fun registration handle ↦
        { registry with functions := registry.functions ++ [other] }.handleFor registration =
          .ok handle) registrations handles ↔
      List.Forall₂ (fun registration handle ↦ registry.handleFor registration = .ok handle)
        registrations handles ∧ ∀ handle ∈ handles, handle.Tolerates other := by
  constructor
  · intro h
    induction h with
    | nil => exact ⟨.nil, List.forall_mem_nil _⟩
    | cons hhead _ ih =>
      obtain ⟨hhandle, htolerates⟩ := handleFor_append_iff.mp hhead
      exact ⟨.cons hhandle ih.1, List.forall_mem_cons.mpr ⟨htolerates, ih.2⟩⟩
  · rintro ⟨h, htolerate⟩
    induction h with
    | nil => exact .nil
    | cons hhead _ ih =>
      rw [List.forall_mem_cons] at htolerate
      exact .cons (handleFor_append_iff.mpr ⟨hhead, htolerate.1⟩) (ih htolerate.2)

/-- Functions can be registered one after the other exactly if each of them can be registered alone
and any two of them tolerate each other. -/
theorem registerAll_eq_ok_iff {registrations : List Registration} {last : Registry} :
    registry.registerAll registrations = .ok last ↔
      ∃ handles, List.Forall₂ (fun registration handle ↦
          registry.handleFor registration = .ok handle) registrations handles ∧
        handles.Pairwise Handle.Tolerates ∧
        last = { registry with functions := registry.functions ++ handles } := by
  induction registrations generalizing registry with
  | nil =>
    constructor
    · rintro ⟨⟩
      exact ⟨[], .nil, .nil, by rw [List.append_nil]⟩
    · rintro ⟨handles, hhandles, -, rfl⟩
      rw [List.forall₂_nil_left_iff.mp hhandles, List.append_nil]
      rfl
  | cons registration rest ih =>
    rw [registerAll, bind_eq_ok_iff]
    constructor
    · rintro ⟨⟨handle, next⟩, hregister, h⟩
      obtain ⟨hhandle, rfl⟩ := register_eq_ok hregister
      obtain ⟨handles, hhandles, hpairwise, rfl⟩ := ih.mp h
      -- The later functions tolerate the first one; by symmetry it tolerates them.
      obtain ⟨halone, htolerate⟩ := forall₂_handleFor_append_iff.mp hhandles
      refine ⟨handle :: handles, .cons hhandle halone, ?_, ?_⟩
      · exact hpairwise.cons fun other hother ↦ (htolerate other hother).symm
      · rw [List.append_assoc, List.singleton_append]
    · rintro ⟨_, hhandles, hpairwise, rfl⟩
      obtain ⟨handle, handles, hhandle, halone, rfl⟩ := List.forall₂_cons_left_iff.mp hhandles
      obtain ⟨hfirst, hpairwise⟩ := List.pairwise_cons.mp hpairwise
      refine ⟨(handle, { registry with functions := registry.functions ++ [handle] }), ?_, ?_⟩
      · rw [register, hhandle]
        rfl
      · refine ih.mpr ⟨handles, forall₂_handleFor_append_iff.mpr ⟨halone, ?_⟩, hpairwise, ?_⟩
        · exact fun other hother ↦ (hfirst other hother).symm
        · rw [List.append_assoc, List.singleton_append]

/-- Another order of the same registrations yields the same functions in another order. -/
theorem registerAll_of_perm {registrations others : List Registration} {last : Registry}
    (hperm : others.Perm registrations) (h : registry.registerAll registrations = .ok last) :
    ∃ functions, functions.Perm last.functions ∧
      (∀ name, { last with functions }.get? name = last.get? name) ∧
      registry.registerAll others = .ok { last with functions } := by
  obtain ⟨handles, hhandles, hpairwise, rfl⟩ := registerAll_eq_ok_iff.mp h
  obtain ⟨moved, hmoved, hsame⟩ := List.perm_comp_forall₂ hperm hhandles
  have htolerate : moved.Pairwise Handle.Tolerates :=
    (hsame.pairwise_iff Handle.Tolerates.symm).mpr hpairwise
  refine ⟨registry.functions ++ moved, hsame.append_left _, fun name ↦ ?_, ?_⟩
  · rw [get?, get?, List.find?_append, List.find?_append, Handle.find?_name_perm hsame htolerate]
  · exact registerAll_eq_ok_iff.mpr ⟨moved, hmoved, htolerate, rfl⟩

/-- **The order of registrations does not matter.** Functions can be registered in one order exactly
if they can be registered in every order; that is so exactly if each of them can be registered alone
and any two tolerate each other. Whatever the order, the registry then has the same functions, and
only their order is another one. -/
theorem registerAll_perm (registry : Registry) (registrations : List Registration) :
    ((∃ order last, order.Perm registrations ∧ registry.registerAll order = .ok last) ↔
        ∀ order, order.Perm registrations → ∃ last, registry.registerAll order = .ok last) ∧
      ((∃ last, registry.registerAll registrations = .ok last) ↔
        ∃ handles, List.Forall₂ (fun registration handle ↦
            registry.handleFor registration = .ok handle) registrations handles ∧
          handles.Pairwise Handle.Tolerates) ∧
      ∀ order others last next, order.Perm registrations → others.Perm registrations →
        registry.registerAll order = .ok last → registry.registerAll others = .ok next →
        next.functions.Perm last.functions ∧ next = { last with functions := next.functions } ∧
          ∀ name, next.get? name = last.get? name := by
  refine ⟨⟨?_, fun h ↦ ?_⟩, ⟨?_, ?_⟩, ?_⟩
  · rintro ⟨order, last, horder, h⟩ others hothers
    obtain ⟨functions, -, -, hok⟩ := registerAll_of_perm (hothers.trans horder.symm) h
    exact ⟨_, hok⟩
  · obtain ⟨last, hok⟩ := h registrations (.refl _)
    exact ⟨registrations, last, .refl _, hok⟩
  · rintro ⟨last, h⟩
    obtain ⟨handles, hhandles, hpairwise, -⟩ := registerAll_eq_ok_iff.mp h
    exact ⟨handles, hhandles, hpairwise⟩
  · rintro ⟨handles, hhandles, hpairwise⟩
    exact ⟨_, registerAll_eq_ok_iff.mpr ⟨handles, hhandles, hpairwise, rfl⟩⟩
  · intro order others last next horder hothers hlast hnext
    obtain ⟨functions, hfunctions, hget, hok⟩ :=
      registerAll_of_perm (hothers.trans horder.symm) hlast
    obtain rfl := Except.ok.inj (hok.symm.trans hnext)
    exact ⟨hfunctions, rfl, hget⟩

/-- A function that needs a constant and a function with the name of that constant: whichever comes
second is refused. -/
example :
    let body (names : List String) : Body := .callable
      { name := some "fn", parameters := [⟨"args", .positional, .missing, none⟩],
        source := .definition ["return args"],
        code := some { names := .node names [], globals := [("LIMIT", .value (.int 1))] } }
    let limited : Registration := ⟨"f", none, body ["LIMIT"]⟩
    let limit : Registration := ⟨"LIMIT", none, body []⟩
    (registerAll {} [limited]).toBool ∧ (registerAll {} [limit]).toBool ∧
      ¬(registerAll {} [limited, limit]).toBool ∧ ¬(registerAll {} [limit, limited]).toBool := by
  decide +kernel

end Registry

end Runbook
