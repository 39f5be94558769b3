import Mathlib.Data.List.Dedup
import Runbook.Proofs.ModuleNames
import Runbook.Proofs.Resolution

/-!
# The layout of the runtime module

The sections of the runtime module stand between blank lines, so the text of a function is found in
it as it was relocated. The table of the functions is a section of lines: one line opens it, one
closes it, and between them each function has its entry.

Names of functions are identifiers. They hold no line feed, so the lines of the table are the lines
that were joined; and they hold no quote, so the entry of one name never starts like the entry of
another (`filter_lines_tableSection`).
-/

namespace Runbook

/-! ## Sections and lines -/

namespace Text

theorem joinChars_append (separator : List Char) {front back : List (List Char)}
    (hfront : front ≠ []) (hback : back ≠ []) :
    joinChars separator (front ++ back) =
      joinChars separator front ++ separator ++ joinChars separator back := by
  induction front with
  | nil => exact absurd rfl hfront
  | cons part rest ih =>
    cases rest with
    | nil =>
      obtain ⟨next, more, rfl⟩ := List.exists_cons_of_ne_nil hback
      rfl
    | cons next more =>
      have hrest := ih (List.cons_ne_nil next more)
      rw [List.cons_append] at hrest
      rw [List.cons_append, List.cons_append, joinChars, hrest, joinChars]
      simp only [List.append_assoc]

theorem join_append (separator : String) {front back : List String} (hfront : front ≠ [])
    (hback : back ≠ []) :
    join separator (front ++ back) = join separator front ++ separator ++ join separator back := by
  rw [join, join, join, List.map_append, joinChars_append _ (by simpa using hfront)
    (by simpa using hback), String.ofList_append, String.ofList_append, String.ofList_toList]

/-- The text holds `part` between blank lines. -/
def HasSection (part text : String) : Prop :=
  ∃ before after, text = before ++ "\n\n\n" ++ part ++ "\n\n\n" ++ after

private theorem hasSection_join {front back : List String} (part ending : String)
    (hfront : front ≠ []) (hback : back ≠ []) :
    HasSection part (join "\n\n\n" (front ++ part :: back) ++ ending) := by
  refine ⟨join "\n\n\n" front, join "\n\n\n" back ++ ending, ?_⟩
  rw [join_append _ hfront (List.cons_ne_nil _ _), ← List.singleton_append,
    join_append _ (List.cons_ne_nil _ _) hback, join_singleton]
  simp only [String.append_assoc]

theorem splitLines_of_notMem {line : List Char} (h : '\n' ∉ line) : splitLines line = [line] := by
  induction line with
  | nil => rfl
  | cons c rest ih =>
    rw [List.mem_cons, not_or] at h
    rw [splitLines, if_neg (Ne.symm h.1), ih h.2]

theorem splitLines_append {line : List Char} (h : '\n' ∉ line) (rest : List Char) :
    splitLines (line ++ '\n' :: rest) = line :: splitLines rest := by
  induction line with
  | nil => rw [List.nil_append, splitLines, if_pos rfl]
  | cons c line ih =>
    rw [List.mem_cons, not_or] at h
    rw [List.cons_append, splitLines, if_neg (Ne.symm h.1), ih h.2]

theorem splitLines_joinChars {parts : List (List Char)} (hparts : parts ≠ [])
    (h : ∀ part ∈ parts, '\n' ∉ part) : splitLines (joinChars ['\n'] parts) = parts := by
  induction parts with
  | nil => exact absurd rfl hparts
  | cons part rest ih =>
    have hpart : '\n' ∉ part := h part List.mem_cons_self
    cases rest with
    | nil => exact splitLines_of_notMem hpart
    | cons next more =>
      have hrest := ih (List.cons_ne_nil _ _) fun other hother ↦
        h other (List.mem_cons_of_mem _ hother)
      rw [joinChars, List.append_assoc, List.singleton_append, splitLines_append hpart, hrest]

/-- Lines that were joined are the lines of the result. -/
theorem lines_join {parts : List String} (hparts : parts ≠ [])
    (h : ∀ part ∈ parts, '\n' ∉ part.toList) : lines (join "\n" parts) = parts := by
  have hmap : parts.map String.toList ≠ [] := by simpa using hparts
  have hlines : ∀ line ∈ parts.map String.toList, '\n' ∉ line := by
    intro line hline
    obtain ⟨part, hpart, rfl⟩ := List.mem_map.mp hline
    exact h part hpart
  rw [lines, join, String.toList_ofList]
  change (splitLines (joinChars ['\n'] _)).map _ = _
  rw [splitLines_joinChars hmap hlines, List.map_map]
  simp [Function.comp_def]

theorem startsWith_iff {pattern text : String} :
    startsWith pattern text = true ↔ ∃ rest, text = pattern ++ rest := by
  constructor
  · intro h
    obtain ⟨rest, hrest⟩ := Option.isSome_iff_exists.mp h
    refine ⟨String.ofList rest, String.toList_injective ?_⟩
    rw [String.toList_append, String.toList_ofList]
    exact eq_append_of_stripStart? hrest
  · rintro ⟨rest, rfl⟩
    exact startsWith_append pattern rest

/-- Characters of an identifier are neither line feeds nor quotes. -/
theorem notMem_of_isIdentifier {name : String} (h : isIdentifier name = true) {c : Char}
    (hstart : isIdentifierStart c = false) (hrest : isIdentifierRest c = false) :
    c ∉ name.toList := by
  rw [isIdentifier] at h
  cases hname : name.toList with
  | nil => exact List.not_mem_nil
  | cons first rest =>
    rw [hname, spellsIdentifier, Bool.and_eq_true, List.all_eq_true] at h
    intro hmem
    rcases List.mem_cons.mp hmem with rfl | hmem
    · exact absurd h.1 (by rw [hstart]; exact Bool.false_ne_true)
    · exact absurd (h.2 c hmem) (by rw [hrest]; exact Bool.false_ne_true)

end Text

/-! ## The table of the functions -/

/-- How the entry of a name starts: with the name as its key. -/
def entryKey (name : String) : String := "    \"" ++ name ++ "\": "

/-- Only the entry of a name starts like it. -/
theorem startsWith_entryKey_iff {name : String} {handle : Handle} (hname : '"' ∉ name.toList)
    (hhandle : '"' ∉ handle.name.toList) :
    Text.startsWith (entryKey name) (Registry.tableLine handle) = true ↔ handle.name = name := by
  have hline : Registry.tableLine handle = entryKey handle.name ++ (handle.name ++ ",") :=
    String.append_assoc ..
  have hkey (key rest : String) : (entryKey key ++ rest).toList =
      "    \"".toList ++ (key.toList ++ '"' :: (": " ++ rest).toList) := by
    simp only [entryKey, String.toList_append, List.append_assoc]
    rfl
  have hplain {text : String} (h : '"' ∉ text.toList) : text.toList.all (· != '"') = true := by
    rw [List.all_eq_true]
    intro c hc
    exact bne_iff_ne.mpr fun heq ↦ h (heq ▸ hc)
  rw [Text.startsWith_iff, hline]
  constructor
  · rintro ⟨rest, h⟩
    have hlist := congrArg String.toList h
    rw [hkey, hkey] at hlist
    have hsame := Text.append_inj_of_all (hplain hhandle) (hplain hname) rfl rfl
      (List.append_cancel_left hlist)
    exact String.toList_injective hsame.1
  · rintro rfl
    exact ⟨_, rfl⟩

namespace Registry

variable {registry : Registry} {handle : Handle}

private theorem IsConsistent.notMem_name (h : registry.IsConsistent)
    (hmem : handle ∈ registry.functions) :
    '\n' ∉ handle.name.toList ∧ '"' ∉ handle.name.toList := by
  have hvalid := (h.valid handle.name (List.mem_map_of_mem hmem)).1
  rw [isFunctionName, Bool.and_eq_true] at hvalid
  exact ⟨Text.notMem_of_isIdentifier hvalid.1 (by decide) (by decide),
    Text.notMem_of_isIdentifier hvalid.1 (by decide) (by decide)⟩

private theorem IsConsistent.lines_tableSection (h : registry.IsConsistent) :
    Text.lines registry.tableSection =
      "REGISTRY = \x7b" :: registry.functions.map tableLine ++ ["\x7d"] := by
  refine Text.lines_join (List.cons_ne_nil _ _) fun line hline ↦ ?_
  rw [List.cons_append, List.mem_cons, List.mem_append, List.mem_map, List.mem_singleton] at hline
  rcases hline with rfl | ⟨handle, hmem, rfl⟩ | rfl
  · decide
  · have hname := (h.notMem_name hmem).1
    simp [tableLine, String.toList_append, hname]
  · decide

/-- **The table has exactly one entry for each function.** -/
theorem IsConsistent.filter_lines_tableSection (h : registry.IsConsistent)
    (hmem : handle ∈ registry.functions) :
    (Text.lines registry.tableSection).filter (Text.startsWith (entryKey handle.name)) =
      [tableLine handle] := by
  have hiff : ∀ other ∈ registry.functions,
      Text.startsWith (entryKey handle.name) (tableLine other) = (other == handle) := by
    intro other hother
    rw [Bool.eq_iff_iff, startsWith_entryKey_iff (h.notMem_name hmem).2 (h.notMem_name hother).2,
      beq_iff_eq]
    exact ⟨List.inj_on_of_nodup_map h.nodup hother hmem, congrArg Handle.name⟩
  have hentries : registry.functions.filter
      (Text.startsWith (entryKey handle.name) ∘ tableLine) = [handle] := by
    refine (List.filter_congr hiff).trans ?_
    rw [List.filter_beq, List.count_eq_one_of_mem (.of_map _ h.nodup) hmem]
    rfl
  have hopening : Text.startsWith (entryKey handle.name) "REGISTRY = \x7b" = false := by
    simp [Text.startsWith, entryKey, Text.stripStart?]
  have hclosing : Text.startsWith (entryKey handle.name) "\x7d" = false := by
    simp [Text.startsWith, entryKey, Text.stripStart?]
  rw [h.lines_tableSection, List.cons_append, List.filter_cons, hopening,
    if_neg Bool.false_ne_true, List.filter_append, List.filter_map, hentries, List.filter_cons,
    hclosing, if_neg Bool.false_ne_true]
  rfl

/-! ## The text of the module -/

/-- A function that is not first among the sections and not last stands between blank lines, and so
does the table. -/
theorem hasSection_of_moduleText {title : ModuleTitle} {text : String}
    (htext : registry.moduleText title = some text) :
    (∀ handle ∈ registry.functions, Text.HasSection handle.source text) ∧
      Text.HasSection registry.tableSection text := by
  rw [moduleText] at htext
  split at htext
  · cases htext
  obtain rfl := Option.some.inj htext
  rw [moduleSections]
  set opening := [title.text, registry.importSection] ++
    (if registry.moduleConstants.isEmpty then [] else [Text.join "\n" registry.moduleConstants])
    with hopening
  have hne : opening ≠ [] := List.cons_ne_nil _ _
  constructor
  · intro handle hmem
    obtain ⟨front, back, hfunctions⟩ := List.append_of_mem hmem
    have hsections : opening ++ registry.functions.map Handle.source ++
        [registry.tableSection, entryPoint] =
        (opening ++ front.map Handle.source) ++ handle.source ::
          (back.map Handle.source ++ [registry.tableSection, entryPoint]) := by
      rw [hfunctions, List.map_append, List.map_cons, ← List.append_assoc, List.append_assoc,
        List.cons_append]
    rw [hsections]
    exact Text.hasSection_join _ _ (List.append_ne_nil_of_left_ne_nil hne _)
      (List.append_ne_nil_of_right_ne_nil _ (List.cons_ne_nil _ _))
  · exact Text.hasSection_join _ _ (List.append_ne_nil_of_left_ne_nil hne _)
      (List.cons_ne_nil _ _)

/-- Only the table is bound to its name. -/
theorem IsConsistent.text_of_registry (h : registry.IsConsistent) {statement : Statement}
    (hstatement : statement ∈ registry.statements) (hname : statement.name = "REGISTRY") :
    statement.text = registry.tableSection := by
  have hruntime : statement.name ∈ runtimeNames := by
    rw [hname]
    decide
  rcases mem_statements_cases hstatement with hown | ⟨handle, hmem, line, hline, rfl⟩ |
    ⟨handle, hmem, rfl⟩
  · have htable : ⟨"REGISTRY", registry.tableSection⟩ ∈ registry.ownStatements :=
      List.mem_append_right _ List.mem_cons_self
    rw [eq_of_mem_ownStatements hown htable hname]
  · exact absurd hruntime (h.boundName_notMem hmem hline).2
  · exact absurd hruntime (h.valid handle.name (List.mem_map_of_mem hmem)).2

end Registry

end Runbook
