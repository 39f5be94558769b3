import Runbook.Proofs.Registration

/-!
# One meaning for each name of the runtime module

The statements at the top of the runtime module bind names: imports and constants, the functions,
the table and the entry point. If two of them bind one name, the last one wins, and a function that
needs another one of them sees the wrong thing.

A registration compares the lines that a function needs with the names of functions and of the
module itself, but never with the lines of other functions. So a name is bound once if and only if
any two lines that bind it agree (`Registry.bindsOnce_iff_linesAgree`), and that can fail.
-/

namespace Runbook

theorem Text.join_singleton (separator text : String) : Text.join separator [text] = text :=
  String.ofList_toList

theorem Text.startsWith_append (pattern rest : String) :
    Text.startsWith pattern (pattern ++ rest) = true := by
  rw [Text.startsWith, String.toList_append, Text.stripStart?_append]
  rfl

/-- A line that imports something. -/
def isImportLine (line : String) : Bool :=
  Text.startsWith "import " line || Text.startsWith "from " line

/-! ## The statements of the module -/

/-- A statement at the top of the runtime module, and the name that it binds. -/
structure Statement where
  name : String
  text : String
deriving DecidableEq, Repr

namespace Statement

/-- An import or a constant. -/
def ofLine (line : String) : Statement := ⟨boundName line, line⟩

@[simp]
theorem name_ofLine (line : String) : (ofLine line).name = boundName line := rfl

@[simp]
theorem text_ofLine (line : String) : (ofLine line).text = line := rfl

/-- The definition of a function. -/
def ofHandle (handle : Handle) : Statement := ⟨handle.name, handle.source⟩

@[simp]
theorem name_ofHandle (handle : Handle) : (ofHandle handle).name = handle.name := rfl

@[simp]
theorem text_ofHandle (handle : Handle) : (ofHandle handle).text = handle.source := rfl

end Statement

/-- The lines that a function needs at the top of the module. -/
def Handle.lines (handle : Handle) : List String := handle.imports ++ handle.constants

namespace Registry

variable (registry : Registry)

/-- The import lines of the module in their order. -/
def importLines : List String :=
  Text.sort (registry.moduleImports.filter (Text.startsWith "import ")) ++
    Text.sort (registry.moduleImports.filter (Text.startsWith "from "))

/-- The statements of the module, section by section. -/
def statementSections : List (List Statement) :=
  [registry.importLines.map .ofLine] ++
    (if registry.moduleConstants.isEmpty then []
      else [registry.moduleConstants.map Statement.ofLine]) ++
    registry.functions.map (fun handle ↦ [.ofHandle handle]) ++
    [[⟨"REGISTRY", registry.tableSection⟩], [⟨"main", entryPoint⟩]]

def statements : List Statement := registry.statementSections.flatten

private theorem moduleSections_eq (title : ModuleTitle) :
    registry.moduleSections title =
      title.text :: registry.statementSections.map fun statements ↦
        Text.join "\n" (statements.map Statement.text) := by
  rw [moduleSections, statementSections, importSection]
  simp [Function.comp_def, Text.join_singleton, importLines, apply_ite (List.map _)]

def ownStatements : List Statement :=
  runtimeImports.map .ofLine ++ [⟨"REGISTRY", registry.tableSection⟩, ⟨"main", entryPoint⟩]

variable {registry}

theorem mem_importLines_iff {line : String} :
    line ∈ registry.importLines ↔
      (line ∈ runtimeImports ∨ ∃ handle ∈ registry.functions, line ∈ handle.imports) ∧
        isImportLine line = true := by
  rw [importLines, List.mem_append, Text.mem_sort, Text.mem_sort, List.mem_filter, List.mem_filter,
    ← and_or_left, moduleImports, Text.mem_distinct, List.mem_append, List.mem_flatMap,
    isImportLine, Bool.or_eq_true]

theorem mem_moduleConstants_iff {line : String} :
    line ∈ registry.moduleConstants ↔ ∃ handle ∈ registry.functions, line ∈ handle.constants := by
  rw [moduleConstants, Text.mem_distinct, List.mem_flatMap]

private theorem statements_eq :
    registry.statements =
      registry.importLines.map .ofLine ++ registry.moduleConstants.map .ofLine ++
        registry.functions.map .ofHandle ++
        [⟨"REGISTRY", registry.tableSection⟩, ⟨"main", entryPoint⟩] := by
  have hconstants : (if registry.moduleConstants.isEmpty then []
      else [registry.moduleConstants.map Statement.ofLine]).flatten =
      registry.moduleConstants.map Statement.ofLine := by
    split
    · next h => rw [List.isEmpty_iff.mp h]; rfl
    · exact List.append_nil _
  have hfunctions : (registry.functions.map fun handle ↦ [Statement.ofHandle handle]).flatten =
      registry.functions.map .ofHandle := by
    rw [← List.flatMap_def, ← List.map_eq_flatMap]
  rw [statements, statementSections]
  simp only [List.flatten_append, hconstants, hfunctions, List.flatten_cons, List.flatten_nil,
    List.append_nil, List.singleton_append]

/-! ### Whose statement it is -/

/-- A statement of the module is one of its own, a line that a function needs, or a function. -/
theorem mem_statements_cases {statement : Statement} (h : statement ∈ registry.statements) :
    statement ∈ registry.ownStatements ∨
      (∃ handle ∈ registry.functions, ∃ line ∈ handle.lines, statement = .ofLine line) ∨
      ∃ handle ∈ registry.functions, statement = .ofHandle handle := by
  rw [statements_eq, List.mem_append, List.mem_append, List.mem_append, List.mem_map, List.mem_map,
    List.mem_map] at h
  rw [ownStatements, List.mem_append]
  rcases h with ((⟨line, hline, rfl⟩ | ⟨line, hline, rfl⟩) | ⟨handle, hhandle, rfl⟩) | hown
  · rcases (mem_importLines_iff.mp hline).1 with hown | ⟨handle, hhandle, himport⟩
    · exact .inl (.inl (List.mem_map_of_mem hown))
    · exact .inr (.inl ⟨handle, hhandle, line, List.mem_append_left _ himport, rfl⟩)
  · obtain ⟨handle, hhandle, hconstant⟩ := mem_moduleConstants_iff.mp hline
    exact .inr (.inl ⟨handle, hhandle, line, List.mem_append_right _ hconstant, rfl⟩)
  · exact .inr (.inr ⟨handle, hhandle, rfl⟩)
  · exact .inl (.inr hown)

private theorem ofLine_mem_statements {handle : Handle} {line : String}
    (himports : ∀ line ∈ handle.imports, isImportLine line = true)
    (hhandle : handle ∈ registry.functions) (hline : line ∈ handle.lines) :
    .ofLine line ∈ registry.statements := by
  rw [statements_eq, List.append_assoc, List.mem_append, List.mem_append]
  refine .inl ?_
  rcases List.mem_append.mp hline with himport | hconstant
  · exact .inl (List.mem_map_of_mem
      (mem_importLines_iff.mpr ⟨.inr ⟨handle, hhandle, himport⟩, himports line himport⟩))
  · exact .inr (List.mem_map_of_mem (mem_moduleConstants_iff.mpr ⟨handle, hhandle, hconstant⟩))

private theorem map_name_ownStatements :
    registry.ownStatements.map Statement.name =
      ["_asyncio", "_inspect", "_json", "_sys", "REGISTRY", "main"] := by
  have himports : runtimeImports.map boundName = ["_asyncio", "_inspect", "_json", "_sys"] := by
    decide +kernel
  rw [ownStatements, List.map_append, List.map_map]
  exact congrArg (· ++ ["REGISTRY", "main"]) himports

private theorem name_mem_runtimeNames {statement : Statement}
    (h : statement ∈ registry.ownStatements) :
    statement.name ∈ runtimeNames := by
  have hname := List.mem_map_of_mem (f := Statement.name) h
  rw [map_name_ownStatements] at hname
  revert hname
  generalize statement.name = name
  revert name
  decide

theorem eq_of_mem_ownStatements {s t : Statement} (hs : s ∈ registry.ownStatements)
    (ht : t ∈ registry.ownStatements) (h : s.name = t.name) : s = t := by
  have hnodup : (registry.ownStatements.map Statement.name).Nodup := by
    rw [map_name_ownStatements]
    decide
  exact List.inj_on_of_nodup_map hnodup hs ht h

/-! ## Names with one meaning -/

variable (registry)

/-- Statements that bind one name are the same. -/
def BindsOnce : Prop :=
  ∀ s ∈ registry.statements, ∀ t ∈ registry.statements, s.name = t.name → s = t

/-- Lines that functions need and that bind one name are the same. -/
def LinesAgree : Prop :=
  ∀ handle ∈ registry.functions, ∀ other ∈ registry.functions,
    ∀ line ∈ handle.lines, ∀ next ∈ other.lines, boundName line = boundName next → line = next

/-- What a name stands for once the module is loaded: the last statement that binds it. -/
def meaning? (name : String) : Option String :=
  (registry.statements.reverse.find? (·.name == name)).map Statement.text

/-- Every function sees each name that it needs as its own line says. -/
def SeesOwnLines : Prop :=
  ∀ handle ∈ registry.functions, ∀ line ∈ handle.lines,
    registry.meaning? (boundName line) = some line

instance : Decidable registry.BindsOnce :=
  inferInstanceAs (Decidable (∀ s ∈ registry.statements, ∀ t ∈ registry.statements,
    s.name = t.name → s = t))

instance : Decidable registry.LinesAgree :=
  inferInstanceAs (Decidable (∀ handle ∈ registry.functions, ∀ other ∈ registry.functions,
    ∀ line ∈ handle.lines, ∀ next ∈ other.lines, boundName line = boundName next → line = next))

variable {registry}

theorem IsConsistent.boundName_notMem (h : registry.IsConsistent) {handle : Handle} {line : String}
    (hhandle : handle ∈ registry.functions) (hline : line ∈ handle.lines) :
    boundName line ∉ registry.names ∧ boundName line ∉ runtimeNames :=
  h.bound handle hhandle _ (List.mem_map_of_mem hline)

/-- The names of the module itself, of the functions and of their lines are three kinds of names, so
only statements of one kind can clash; and among the lines none do. -/
theorem IsConsistent.bindsOnce (h : registry.IsConsistent) (hlines : registry.LinesAgree) :
    registry.BindsOnce := by
  intro s hs t ht hname
  have hfunction : ∀ handle ∈ registry.functions,
      handle.name ∈ registry.names ∧ handle.name ∉ runtimeNames := fun handle hhandle ↦
    have hmem := List.mem_map_of_mem hhandle
    ⟨hmem, (h.valid _ hmem).2⟩
  rcases mem_statements_cases hs with hown | ⟨handle, hhandle, line, hline, rfl⟩ |
    ⟨handle, hhandle, rfl⟩
  · have hruntime := name_mem_runtimeNames hown
    rw [hname] at hruntime
    rcases mem_statements_cases ht with hother | ⟨other, hother, next, hnext, rfl⟩ |
      ⟨other, hother, rfl⟩
    · exact eq_of_mem_ownStatements hown hother hname
    · exact absurd hruntime (h.boundName_notMem hother hnext).2
    · exact absurd hruntime (hfunction other hother).2
  · obtain ⟨hnames, hruntime⟩ := h.boundName_notMem hhandle hline
    rw [← Statement.name_ofLine, hname] at hnames hruntime
    rcases mem_statements_cases ht with hother | ⟨other, hother, next, hnext, rfl⟩ |
      ⟨other, hother, rfl⟩
    · exact absurd (name_mem_runtimeNames hother) hruntime
    · rw [hlines handle hhandle other hother line hline next hnext hname]
    · exact absurd (hfunction other hother).1 hnames
  · obtain ⟨hnames, hruntime⟩ := hfunction handle hhandle
    rw [← Statement.name_ofHandle, hname] at hnames hruntime
    rcases mem_statements_cases ht with hother | ⟨other, hother, next, hnext, rfl⟩ |
      ⟨other, hother, rfl⟩
    · exact absurd (name_mem_runtimeNames hother) hruntime
    · exact absurd hnames (h.boundName_notMem hother hnext).1
    · rw [List.inj_on_of_nodup_map h.nodup hhandle hother hname]

private theorem BindsOnce.meaning?_eq (h : registry.BindsOnce) {statement : Statement}
    (hstatement : statement ∈ registry.statements) :
    registry.meaning? statement.name = some statement.text := by
  rw [meaning?]
  cases hfind : registry.statements.reverse.find? (·.name == statement.name) with
  | none =>
    have hnone := List.find?_eq_none.mp hfind statement (List.mem_reverse.mpr hstatement)
    simp at hnone
  | some found =>
    have hname : found.name = statement.name := by simpa using List.find?_some hfind
    have hfound := List.mem_reverse.mp (List.mem_of_find?_eq_some hfind)
    rw [h found hfound statement hstatement hname]
    rfl

private theorem SeesOwnLines.linesAgree (h : registry.SeesOwnLines) : registry.LinesAgree := by
  intro handle hhandle other hother line hline next hnext hname
  have hline := h handle hhandle line hline
  rw [hname, h other hother next hnext] at hline
  exact (Option.some.inj hline).symm

end Registry

/-! ## Relocated functions -/

private theorem isImportLine_of_dependency {owner name line : String} {home : Option String}
    {found : Global} (h : found.dependency owner home name = .ok (some (.importLine line))) :
    isImportLine line = true := by
  cases found with
  | module real =>
    cases h
    rw [isImportLine, String.append_assoc, Text.startsWith_append, Bool.true_or]
  | value held =>
    rw [Global.dependency] at h
    split at h <;> cases h
  | staged => cases h
  | object origin real =>
    cases origin with
    | none => cases h
    | some origin =>
      cases real with
      | none => cases h
      | some real =>
        rw [Global.dependency] at h
        split at h
        · cases h
        · cases h
          rw [isImportLine, String.append_assoc, String.append_assoc, String.append_assoc,
            Text.startsWith_append, Bool.or_true]

private theorem isImportLine_of_dependenciesOf {owner line : String} {code : Code}
    {names : List String} {needed : Dependencies} (h : code.dependenciesOf owner names = .ok needed)
    (hline : line ∈ needed.imports) : isImportLine line = true := by
  induction names generalizing needed with
  | nil =>
    cases h
    exact absurd hline List.not_mem_nil
  | cons name rest ih =>
    rw [Code.dependenciesOf] at h
    split at h
    · exact ih h hline
    · obtain ⟨dependency, hdependency, h⟩ := bind_eq_ok_iff.mp h
      obtain ⟨others, hothers, h⟩ := bind_eq_ok_iff.mp h
      cases h
      match dependency with
      | none => exact ih hothers hline
      | some (.constantLine _) => exact ih hothers hline
      | some (.importLine _) =>
        rcases List.mem_cons.mp hline with rfl | hline
        · exact isImportLine_of_dependency hdependency
        · exact ih hothers hline

private theorem isImportLine_of_dependencies {name line : String} {body : Body}
    {needed : Dependencies} (h : body.dependencies name = .ok needed)
    (hline : line ∈ needed.imports) :
    isImportLine line = true := by
  cases body with
  | other typeName =>
    cases h
    exact absurd hline List.not_mem_nil
  | callable routine =>
    rw [Body.dependencies] at h
    split at h
    · cases h
      exact absurd hline List.not_mem_nil
    · exact isImportLine_of_dependenciesOf h hline

theorem exists_lines_of_relocate {name source : String} {routine : Routine}
    (h : (Body.callable routine).relocate name = .ok source) :
    ∃ lines, source = routine.definitionText name lines := by
  rw [Body.relocate] at h
  split at h
  · cases h
  split at h
  · cases h
  split at h
  · cases h
  · cases h
  · next lines _ =>
    cases h
    exact ⟨lines, rfl⟩

private theorem exists_definitionText_of_relocate {name source : String} {body : Body}
    (h : body.relocate name = .ok source) :
    ∃ (routine : Routine) (lines : List String), source = routine.definitionText name lines := by
  cases body with
  | other typeName => cases h
  | callable routine => exact ⟨routine, exists_lines_of_relocate h⟩

/-- The function is written as the definition of its name, and its imports are import lines. -/
structure Handle.IsRelocated (handle : Handle) : Prop where
  source : ∃ (routine : Routine) (lines : List String),
    handle.source = routine.definitionText handle.name lines
  imports : ∀ line ∈ handle.imports, isImportLine line = true

namespace Registry

variable {registry : Registry}

/-! ## Registries that registrations make -/

/-- Registers functions one after the other, each of them with success. -/
def registerAll (registry : Registry) : List Registration → Except RegistrationError Registry
  | [] => .ok registry
  | registration :: rest => do
    let made ← registry.register registration
    made.2.registerAll rest

/-- What each registration keeps is kept by all of them. -/
theorem registerAll_invariant {p : Registry → Prop}
    (hstep : ∀ {registry next : Registry} {registration : Registration} {handle : Handle},
      p registry → registry.register registration = .ok (handle, next) → p next)
    {registrations : List Registration} {last : Registry} (hp : p registry)
    (h : registry.registerAll registrations = .ok last) : p last := by
  induction registrations generalizing registry with
  | nil =>
    cases h
    exact hp
  | cons registration rest ih =>
    rw [registerAll] at h
    obtain ⟨made, hmade, h⟩ := bind_eq_ok_iff.mp h
    exact ih (hstep hp hmade) h

theorem isRelocated_of_registerAll {registrations : List Registration} {last : Registry}
    (hregistry : ∀ handle ∈ registry.functions, handle.IsRelocated)
    (h : registry.registerAll registrations = .ok last) :
    ∀ handle ∈ last.functions, handle.IsRelocated := by
  refine registerAll_invariant
    (p := fun registry ↦ ∀ handle ∈ registry.functions, handle.IsRelocated)
    (fun hold hregister handle hhandle ↦ ?_) hregistry h
  obtain ⟨hnew, rfl⟩ := register_eq_ok hregister
  rcases List.mem_append.mp hhandle with hmem | hmem
  · exact hold handle hmem
  · obtain rfl := List.mem_singleton.mp hmem
    obtain ⟨-, -, hsource, hneeded⟩ := handleFor_eq_ok hnew
    exact ⟨exists_definitionText_of_relocate hsource,
      fun line ↦ isImportLine_of_dependencies hneeded⟩

/-- **A name of the runtime module has one meaning if and only if the functions agree on it.** The
module of functions that were registered one after the other is made of its statements, and each
function among them is the definition of its name. No name is bound by two different statements
exactly if any two lines that bind one name are the same line, be it for one function or for two;
and exactly then every function sees what its own lines say. -/
theorem bindsOnce_iff_linesAgree (owner : String) (registrations : List Registration)
    (registry : Registry) (h : registerAll { owner } registrations = .ok registry) :
    (∀ title, registry.moduleText title =
      if registry.functions.isEmpty then none
      else some (Text.join "\n\n\n" (title.text :: registry.statementSections.map
        fun statements ↦ Text.join "\n" (statements.map Statement.text)) ++ "\n")) ∧
      (∀ handle ∈ registry.functions, ∃ (routine : Routine) (lines : List String),
        handle.source = routine.definitionText handle.name lines) ∧
      (registry.BindsOnce ↔ registry.LinesAgree) ∧
      (registry.SeesOwnLines ↔ registry.LinesAgree) := by
  have hconsistent : registry.IsConsistent :=
    registerAll_invariant (fun hold ↦ hold.register) (isConsistent_of_functions rfl) h
  have hrelocated : ∀ handle ∈ registry.functions, handle.IsRelocated :=
    isRelocated_of_registerAll (fun _ hmem ↦ absurd hmem List.not_mem_nil) h
  have hsees : registry.BindsOnce → registry.SeesOwnLines := fun honce handle hhandle line hline ↦
    honce.meaning?_eq (ofLine_mem_statements (hrelocated handle hhandle).imports hhandle hline)
  refine ⟨fun title ↦ ?_, fun handle hhandle ↦ (hrelocated handle hhandle).source, ?_, ?_⟩
  · rw [moduleText, moduleSections_eq]
  · exact ⟨fun honce ↦ (hsees honce).linesAgree, hconsistent.bindsOnce⟩
  · exact ⟨SeesOwnLines.linesAgree, fun hlines ↦ hsees (hconsistent.bindsOnce hlines)⟩

/-- Two functions that need the same import and the same constant. -/
theorem bindsOnce_iff_linesAgree_shared :
    let code : Code :=
      { names := .node ["LIMIT", "json"] [],
        globals := [("LIMIT", .value (.int 1)), ("json", .module "json")] }
    let body : Body := .callable
      { name := some "fn", parameters := [⟨"args", .positional, .missing, none⟩],
        source := .definition ["return json.dumps(LIMIT)"], code := some code }
    let handle (name source : String) : Handle :=
      ⟨some "", name, ⟨[.any], .any⟩, source, false, ["import json"], ["LIMIT = 1"]⟩
    let registry : Registry :=
      { functions := [handle "f" "def f(args):\n    return json.dumps(LIMIT)",
          handle "g" "def g(args):\n    return json.dumps(LIMIT)"] }
    registerAll { owner := "" } [⟨"f", none, body⟩, ⟨"g", none, body⟩] = .ok registry ∧
      registry.LinesAgree ∧ registry.BindsOnce ∧ registry.SeesOwnLines := by
  intro code body handle registry
  have hregistry : registerAll { owner := "" } [⟨"f", none, body⟩, ⟨"g", none, body⟩] =
      .ok registry := by decide +kernel
  have hlines : registry.LinesAgree := by decide +kernel
  obtain ⟨-, -, honce, hsees⟩ := bindsOnce_iff_linesAgree _ _ registry hregistry
  exact ⟨hregistry, hlines, honce.mpr hlines, hsees.mpr hlines⟩

/-- Two functions of different modules, each with its own constant of one name: both are registered,
and the first one sees the constant of the second. -/
theorem not_bindsOnce_of_limits :
    let body (limit : Int) : Body := .callable
      { name := some "fn", parameters := [⟨"args", .positional, .missing, none⟩],
        source := .definition ["return LIMIT"],
        code := some { names := .node ["LIMIT"] [], globals := [("LIMIT", .value (.int limit))] } }
    let handle (name source constant : String) : Handle :=
      ⟨some "", name, ⟨[.any], .any⟩, source, false, [], [constant]⟩
    let registry : Registry :=
      { functions := [handle "f" "def f(args):\n    return LIMIT" "LIMIT = 1",
          handle "g" "def g(args):\n    return LIMIT" "LIMIT = 2"] }
    registerAll { owner := "" } [⟨"f", none, body 1⟩, ⟨"g", none, body 2⟩] = .ok registry ∧
      ¬registry.BindsOnce ∧ registry.meaning? "LIMIT" = some "LIMIT = 2" := by
  decide +kernel

end Registry

end Runbook
