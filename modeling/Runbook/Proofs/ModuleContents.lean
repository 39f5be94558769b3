import Mathlib.Data.List.Sort
import Runbook.Proofs.ModuleLayout
import Runbook.Proofs.RegistrationOrder

/-!
# The contents of the runtime module

The functions of a build need lines at the top of the module, and several functions may need the
same ones. The lines are gathered from all functions in turn, and a line that is there already is
not taken again. Imports are then divided by their first word and sorted; constants stay in the
order in which they are needed first.

Dividing loses nothing: a line that was gathered as an import starts with one of the two words,
since that is how a registration spells it (`Handle.IsRelocated`).
-/

namespace Runbook

/-! ## Sorted and distinct texts -/

namespace Text

private theorem insertSorted_eq_orderedInsert (text : String) (texts : List String) :
    insertSorted text texts = texts.orderedInsert (· ≤ ·) text := by
  induction texts with
  | nil => rfl
  | cons other rest ih => rw [insertSorted, List.orderedInsert_cons, ih]

private theorem sort_eq_insertionSort (texts : List String) :
    sort texts = texts.insertionSort (· ≤ ·) := by
  induction texts with
  | nil => rfl
  | cons text rest ih =>
    rw [List.insertionSort_cons, ← ih, ← insertSorted_eq_orderedInsert]
    rfl

private theorem pairwise_sort (texts : List String) : (sort texts).Pairwise (· ≤ ·) := by
  rw [sort_eq_insertionSort]
  exact List.pairwise_insertionSort (· ≤ ·) texts

theorem nodup_sort {texts : List String} (h : texts.Nodup) : (sort texts).Nodup := by
  rw [sort_eq_insertionSort]
  exact (List.perm_insertionSort (· ≤ ·) texts).nodup_iff.mpr h

/-- A further text is kept if it did not come before. -/
theorem distinct_concat (texts : List String) (text : String) :
    distinct (texts ++ [text]) =
      if text ∈ texts then distinct texts else distinct texts ++ [text] := by
  have hstep : distinct (texts ++ [text]) =
      if (distinct texts).contains text then distinct texts else distinct texts ++ [text] := by
    rw [distinct, List.foldl_append]
    rfl
  rw [hstep]
  exact if_congr (by rw [List.contains_iff_mem, mem_distinct]) rfl rfl

theorem nodup_distinct (texts : List String) : (distinct texts).Nodup := by
  induction texts using List.reverseRecOn with
  | nil => exact List.nodup_nil
  | append_singleton texts text ih =>
    rw [distinct_concat]
    split
    · exact ih
    · next hnew =>
      rw [← List.concat_eq_append, List.nodup_concat]
      exact ⟨mt mem_distinct.mp hnew, ih⟩

/-- The texts that are kept stand in the order in which they came first. -/
theorem pairwise_idxOf_distinct (texts : List String) :
    (distinct texts).Pairwise fun a b ↦ texts.idxOf a < texts.idxOf b := by
  induction texts using List.reverseRecOn with
  | nil => exact .nil
  | append_singleton texts text ih =>
    have hold : ∀ a ∈ distinct texts, (texts ++ [text]).idxOf a = texts.idxOf a := fun a ha ↦
      List.idxOf_append_of_mem (mem_distinct.mp ha)
    have hkept : (distinct texts).Pairwise fun a b ↦
        (texts ++ [text]).idxOf a < (texts ++ [text]).idxOf b := by
      refine ih.imp_of_mem fun ha hb hlt ↦ ?_
      rwa [hold _ ha, hold _ hb]
    rw [distinct_concat]
    split
    · exact hkept
    · next hnew =>
      refine List.pairwise_append.mpr ⟨hkept, List.pairwise_singleton _ _, fun a ha b hb ↦ ?_⟩
      rw [List.mem_singleton.mp hb, hold a ha, List.idxOf_append_of_notMem hnew]
      exact Nat.lt_of_lt_of_le (List.idxOf_lt_length_of_mem (mem_distinct.mp ha))
        (Nat.le_add_right _ _)

end Text

/-! ## The lines at the top of the module -/

/-- No line starts with both words. -/
theorem not_startsWith_from {line : String} (h : Text.startsWith "import " line = true) :
    ¬Text.startsWith "from " line = true := by
  obtain ⟨rest, rfl⟩ := Text.startsWith_iff.mp h
  intro hfrom
  obtain ⟨other, hother⟩ := Text.startsWith_iff.mp hfrom
  have hlist := congrArg String.toList hother
  rw [String.toList_append, String.toList_append] at hlist
  exact absurd (List.head_eq_of_cons_eq hlist) (by decide)

/-- The function is what the registration makes of its body. -/
structure Registration.Makes (registration : Registration) (handle : Handle) : Prop where
  name : handle.name = registration.name
  source : registration.body.relocate handle.name = .ok handle.source
  needed : registration.body.dependencies handle.name = .ok ⟨handle.imports, handle.constants⟩

namespace Registry

variable (registry : Registry)

/-- The import lines that the module has to hold, its own and those of the functions: `whole` are
the modules that are imported as a whole and `named` the single names. -/
structure IsImportSection (whole named : List String) : Prop where
  mem_iff : ∀ line, line ∈ whole ++ named ↔
    line ∈ runtimeImports ∨ ∃ handle ∈ registry.functions, line ∈ handle.imports
  nodup : (whole ++ named).Nodup
  startsWith_import : ∀ line ∈ whole, Text.startsWith "import " line = true
  startsWith_from : ∀ line ∈ named, Text.startsWith "from " line = true
  sorted_whole : whole.Pairwise (· ≤ ·)
  sorted_named : named.Pairwise (· ≤ ·)

/-- Where a constant is needed first, among all constants of the functions in their order. -/
def firstUse (line : String) : Nat := (registry.functions.flatMap Handle.constants).idxOf line

/-- The constants that the functions need. -/
structure IsConstantSection (constants : List String) : Prop where
  mem_iff : ∀ line, line ∈ constants ↔ ∃ handle ∈ registry.functions, line ∈ handle.constants
  nodup : constants.Nodup
  inOrder : constants.Pairwise fun line next ↦ registry.firstUse line < registry.firstUse next

variable {registry}

private theorem isImportLine_of_mem_runtimeImports {line : String} (h : line ∈ runtimeImports) :
    isImportLine line = true :=
  List.all_eq_true.mp (show runtimeImports.all isImportLine = true by decide +kernel) line h

private theorem isImportSection (h : ∀ handle ∈ registry.functions, handle.IsRelocated) :
    registry.IsImportSection
      (Text.sort (registry.moduleImports.filter (Text.startsWith "import ")))
      (Text.sort (registry.moduleImports.filter (Text.startsWith "from "))) where
  mem_iff line := by
    refine mem_importLines_iff.trans (and_iff_left_of_imp ?_)
    rintro (hown | ⟨handle, hhandle, hline⟩)
    · exact isImportLine_of_mem_runtimeImports hown
    · exact (h handle hhandle).imports line hline
  nodup := by
    have hnodup : registry.moduleImports.Nodup := Text.nodup_distinct _
    refine List.nodup_append'.mpr
      ⟨Text.nodup_sort (hnodup.filter _), Text.nodup_sort (hnodup.filter _), ?_⟩
    intro line hwhole hnamed
    exact not_startsWith_from (List.of_mem_filter (Text.mem_sort.mp hwhole))
      (List.of_mem_filter (Text.mem_sort.mp hnamed))
  startsWith_import line hline := List.of_mem_filter (Text.mem_sort.mp hline)
  startsWith_from line hline := List.of_mem_filter (Text.mem_sort.mp hline)
  sorted_whole := Text.pairwise_sort _
  sorted_named := Text.pairwise_sort _

private theorem isConstantSection (registry : Registry) :
    registry.IsConstantSection registry.moduleConstants where
  mem_iff _ := mem_moduleConstants_iff
  nodup := Text.nodup_distinct _
  inOrder := Text.pairwise_idxOf_distinct _

private theorem IsConstantSection.ne_nil_iff {constants : List String}
    (h : registry.IsConstantSection constants) :
    constants ≠ [] ↔ ∃ handle ∈ registry.functions, handle.constants ≠ [] := by
  constructor
  · intro hne
    obtain ⟨line, hline⟩ := List.exists_mem_of_ne_nil _ hne
    obtain ⟨handle, hhandle, hmem⟩ := (h.mem_iff line).mp hline
    exact ⟨handle, hhandle, List.ne_nil_of_mem hmem⟩
  · rintro ⟨handle, hhandle, hne⟩
    obtain ⟨line, hline⟩ := List.exists_mem_of_ne_nil _ hne
    exact List.ne_nil_of_mem ((h.mem_iff line).mpr ⟨handle, hhandle, hline⟩)

/-! ## The module -/

private theorem forall₂_makes_of_registerAll {owner : String} {registrations : List Registration}
    (h : registerAll { owner } registrations = .ok registry) :
    List.Forall₂ Registration.Makes registrations registry.functions := by
  obtain ⟨handles, hhandles, -, rfl⟩ := registerAll_eq_ok_iff.mp h
  refine hhandles.imp fun registration handle hhandle ↦ ?_
  obtain ⟨hname, -, hsource, hneeded⟩ := handleFor_eq_ok hhandle
  exact ⟨hname, hsource, hneeded⟩

/-- **The module holds every line that a function needs, once and in its place.** The functions of
the registry come from the registrations, in their order. The module is made of the opening text;
the imports, its own and those of the functions, each once, whole modules before single names and
both sorted; the constants, if there are any, each once in the order of first use; the functions in
the order of registration; the table with one entry for each of them in that order; and the entry
point. -/
theorem moduleText_eq_join_sections (owner : String) (registrations : List Registration)
    (registry : Registry) (h : registerAll { owner } registrations = .ok registry)
    (hfunctions : registry.functions ≠ []) (title : ModuleTitle) :
    List.Forall₂ Registration.Makes registrations registry.functions ∧
      ∃ whole named constants, registry.IsImportSection whole named ∧
        registry.IsConstantSection constants ∧
        (constants ≠ [] ↔ ∃ handle ∈ registry.functions, handle.constants ≠ []) ∧
        registry.moduleText title = some (Text.join "\n\n\n"
          ([title.text, Text.join "\n" (whole ++ named)] ++
            (if constants = [] then [] else [Text.join "\n" constants]) ++
            registry.functions.map Handle.source ++
            [Text.join "\n" (["REGISTRY = \x7b"] ++
              registry.functions.map (fun handle ↦
                "    \"" ++ handle.name ++ "\": " ++ handle.name ++ ",") ++ ["\x7d"]),
              entryPoint]) ++ "\n") := by
  have hrelocated : ∀ handle ∈ registry.functions, handle.IsRelocated :=
    isRelocated_of_registerAll (fun _ hmem ↦ absurd hmem List.not_mem_nil) h
  refine ⟨forall₂_makes_of_registerAll h, _, _, _, isImportSection hrelocated,
    isConstantSection registry, (isConstantSection registry).ne_nil_iff, ?_⟩
  have hempty : registry.functions.isEmpty = false := by simpa using hfunctions
  have hconstants : (if registry.moduleConstants.isEmpty then []
      else [Text.join "\n" registry.moduleConstants]) =
      if registry.moduleConstants = [] then [] else [Text.join "\n" registry.moduleConstants] :=
    if_congr List.isEmpty_iff rfl rfl
  rw [moduleText, hempty, if_neg Bool.false_ne_true, moduleSections, hconstants]
  rfl

/-- Two functions that share an import and a constant, each with lines of its own. -/
theorem moduleText_eq_join_sections_shared :
    let code (names : List String) : Code :=
      { names := .node names [],
        globals := [("LIMIT", .value (.int 1)), ("BASE", .value (.int 2)), ("json", .module "json"),
          ("sqrt", .object (some "math") (some "sqrt")), ("abs", .module "abc")] }
    let body (names : List String) : Body := .callable
      { name := some "fn", parameters := [⟨"args", .positional, .missing, none⟩],
        source := .definition ["return args"], code := some (code names) }
    let registrations : List Registration :=
      [⟨"g", none, body ["json", "sqrt", "LIMIT"]⟩,
        ⟨"f", none, body ["json", "abs", "LIMIT", "BASE"]⟩]
    let handle (name source : String) (imports constants : List String) : Handle :=
      ⟨some "", name, ⟨[.any], .any⟩, source, false, imports, constants⟩
    let registry : Registry :=
      { functions := [
          handle "g" "def g(args):\n    return args" ["import json", "from math import sqrt"]
            ["LIMIT = 1"],
          handle "f" "def f(args):\n    return args" ["import abc as abs", "import json"]
            ["BASE = 2", "LIMIT = 1"]] }
    registerAll { owner := "" } registrations = .ok registry ∧ registry.functions ≠ [] ∧
      List.Forall₂ Registration.Makes registrations registry.functions ∧
      ∃ whole named constants, registry.IsImportSection whole named ∧
        registry.IsConstantSection constants ∧ constants ≠ [] ∧
        (registry.moduleText {}).isSome = true := by
  intro code body registrations handle registry
  have hregistry : registerAll { owner := "" } registrations = .ok registry := by decide +kernel
  have hfunctions : registry.functions ≠ [] := List.cons_ne_nil _ _
  obtain ⟨hmakes, whole, named, constants, himports, hconstants, hiff, htext⟩ :=
    moduleText_eq_join_sections "" registrations registry hregistry hfunctions {}
  refine ⟨hregistry, hfunctions, hmakes, whole, named, constants, himports, hconstants, ?_, ?_⟩
  · exact hiff.mpr ⟨_, List.mem_cons_self, List.cons_ne_nil _ _⟩
  · rw [htext]
    rfl

-- A constant that only the second function needs comes behind the shared one, although the second
-- function names it first.
example :
    let handle (constants : List String) : Handle :=
      ⟨none, "", ⟨[], .any⟩, "", false, [], constants⟩
    ({ functions := [handle ["LIMIT = 1"], handle ["BASE = 2", "LIMIT = 1"]] } :
      Registry).moduleConstants = ["LIMIT = 1", "BASE = 2"] := by
  decide

end Registry

end Runbook
