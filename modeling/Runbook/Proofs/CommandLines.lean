import Runbook.Proofs.Fences
import Runbook.Proofs.Placeholders

/-!
# Lines of commands

A text inside a command is in single quotes or is the text of a JSON string. Compact JSON is one
line, and a query path goes over several lines only behind plain names. So whatever the data is, no
line of the argument of a command begins with a fence.
-/

namespace Runbook

namespace Text

/-- A JSON string is one line. -/
theorem feed_notMem_json (key : PathKey) : '\n' ∉ key.json.toList := by
  have hbody : '\n' ∉ key.points.flatMap CodePoint.json := by
    intro hmem
    obtain ⟨point, -, hpoint⟩ := List.mem_flatMap.mp hmem
    cases point with
    | char c =>
      refine notMem_jsonChar (by decide) (by decide) ?_ hpoint
      rintro hprint rfl
      exact absurd hprint (by decide)
    | surrogate offset => exact notMem_jsonUnit (by decide) (by decide) _ hpoint
  simp [PathKey.json, hbody]

private theorem feed_notMem_jsonString (s : String) : '\n' ∉ (jsonString s).toList := by
  rw [← PathKey.json_ofText]
  exact feed_notMem_json s

private theorem notMem_join {c : Char} (separator : String) (hseparator : c ∉ separator.toList)
    {parts : List String} (h : ∀ part ∈ parts, c ∉ part.toList) :
    c ∉ (join separator parts).toList := by
  induction parts with
  | nil => simp [join, joinChars]
  | cons part rest ih =>
    obtain ⟨hpart, hrest⟩ := List.forall_mem_cons.mp h
    cases rest with
    | nil => rwa [join_singleton]
    | cons other rest =>
      have hothers := ih hrest
      rw [join, String.toList_ofList] at hothers ⊢
      simp only [List.map_cons, joinChars, List.mem_append, not_or] at hothers ⊢
      exact ⟨⟨hpart, hseparator⟩, hothers⟩

end Text

namespace Markdown

/-! ## Compact JSON -/

theorem feed_notMem_number {text : List Char} (h : text.all isNumberChar = true) :
    '\n' ∉ text := by
  intro hmem
  exact absurd (List.all_eq_true.mp h _ hmem) (by decide)

private theorem feed_notMem_enclose {depth : Nat} {opening closing : String}
    (hopening : '\n' ∉ opening.toList) (hclosing : '\n' ∉ closing.toList) {parts : List String}
    (h : ∀ part ∈ parts, '\n' ∉ part.toList) :
    '\n' ∉ (JsonStyle.compact.enclose depth opening closing parts).toList := by
  have hjoined := Text.notMem_join "," (by decide) h
  rw [JsonStyle.enclose]
  split
  · simp [hopening, hclosing]
  · simpa [JsonStyle.lineBreak, JsonStyle.compact, hopening, hclosing] using hjoined

mutual
/-- Compact JSON text is one line. -/
theorem feed_notMem_jsonAt? {depth : Nat} {value : Value} {text : String}
    (h : value.jsonAt? .compact depth = some text) : '\n' ∉ text.toList := by
  match value with
  | .null =>
    cases h
    decide
  | .bool b =>
    cases h
    cases b <;> decide
  | .int n =>
    cases h
    exact feed_notMem_number (all_isNumberChar_repr n)
  | .float x =>
    cases h
    exact feed_notMem_number x.all_isNumberChar_json
  | .text s =>
    cases h
    exact Text.feed_notMem_jsonString s
  | .member m =>
    cases h
    exact Text.feed_notMem_jsonString m.text
  | .list items | .tuple items =>
    obtain ⟨texts, htexts, heq⟩ := Option.map_eq_some_iff.mp h
    cases heq
    exact feed_notMem_enclose (by decide) (by decide) (feed_notMem_jsonItems? htexts)
  | .mapping entries =>
    obtain ⟨texts, htexts, heq⟩ := Option.map_eq_some_iff.mp h
    cases heq
    exact feed_notMem_enclose (by decide) (by decide) (feed_notMem_jsonEntries? htexts)

theorem feed_notMem_jsonItems? {depth : Nat} {items : List Value} {texts : List String}
    (h : Value.jsonItems? .compact depth items = some texts) :
    ∀ text ∈ texts, '\n' ∉ text.toList := by
  match items with
  | [] =>
    cases h
    exact List.forall_mem_nil _
  | item :: rest =>
    obtain ⟨first, hfirst, h⟩ := Option.bind_eq_some_iff.mp h
    obtain ⟨others, hothers, h⟩ := Option.bind_eq_some_iff.mp h
    cases h
    exact List.forall_mem_cons.mpr ⟨feed_notMem_jsonAt? hfirst, feed_notMem_jsonItems? hothers⟩

theorem feed_notMem_jsonEntries? {depth : Nat} {entries : List (Value × Value)}
    {texts : List String} (h : Value.jsonEntries? .compact depth entries = some texts) :
    ∀ text ∈ texts, '\n' ∉ text.toList := by
  match entries with
  | [] =>
    cases h
    exact List.forall_mem_nil _
  | (key, value) :: rest =>
    obtain ⟨name, -, h⟩ := Option.bind_eq_some_iff.mp h
    obtain ⟨first, hfirst, h⟩ := Option.bind_eq_some_iff.mp h
    obtain ⟨others, hothers, h⟩ := Option.bind_eq_some_iff.mp h
    cases h
    have hkey := Text.feed_notMem_jsonString name
    have hvalue := feed_notMem_jsonAt? hfirst
    refine List.forall_mem_cons.mpr ⟨?_, feed_notMem_jsonEntries? hothers⟩
    simp [JsonStyle.compact, hkey, hvalue]
end

/-! ## Query expressions -/

variable {tool : String}

/-- The steps of a query path begin with dots and brackets. -/
theorem holdsFence_pathChars (path : List Segment) :
    holdsFence (Segment.pathChars path) = false := by
  have hbare : ∀ c, isNameChar c = true → (isSolid c || c == '\n') = true := by
    intro c hc
    rw [isNameChar, Bool.or_eq_true] at hc
    rcases hc with hc | hc
    · rw [isSolid_of_class (by decide) (by decide) (by decide) hc, Bool.true_or]
    · rw [hc, Bool.or_true]
  have hnumber : ∀ c, isNumberChar c = true → (isSolid c || c == '\n') = true := by
    intro c hc
    rw [isSolid_of_class (by decide) (by decide) (by decide) hc, Bool.true_or]
  induction path with
  | nil => rfl
  | cons segment rest ih =>
    have hbelow := holdsFenceBelow_of_holdsFence ih
    rw [Segment.pathChars_cons]
    rcases Segment.toList_queryText segment with ⟨name, -, hname, htext⟩ | ⟨n, -, htext⟩ |
        ⟨name, -, htext⟩ <;> rw [htext]
    · refine holdsFence_append_of_all ?_ ih
      rw [List.all_cons, List.all_eq_true.mpr fun c hc ↦
        hbare c (List.all_eq_true.mp (all_isNameChar hname) c hc)]
      rfl
    · refine holdsFence_append_of_all ?_ ih
      rw [List.all_cons, List.all_append, List.all_eq_true.mpr fun c hc ↦
        hnumber c (List.all_eq_true.mp (all_isNumberChar_repr n) c hc)]
      rfl
    · have hline : '\n' ∉ name.json.toList ++ [']'] := by
        simp [Text.feed_notMem_json name]
      rw [List.cons_append, ← List.nil_append ('[' :: _), holdsFence_solid (by decide),
        holdsFenceBelow_append hline, hbelow, holdsFence_nil, Bool.or_false]

private theorem holdsFenceBelow_queryPath (value : Staged) :
    holdsFenceBelow value.queryPath.toList = false := by
  have hpath := holdsFenceBelow_of_holdsFence (holdsFence_pathChars value.path)
  by_cases hempty : value.path = []
  · have htext : value.queryPath.toList = ['.'] := by
      rw [Staged.queryPath, hempty]
      rfl
    rw [htext]
    rfl
  · rw [Staged.toList_queryPath hempty]
    split
    · exact hpath
    · rw [← List.singleton_append, holdsFenceBelow_append (by decide), hpath]

private theorem holdsFenceBelow_resolve {value : Staged} (hroot : '\n' ∉ value.root.toList)
    (htool : '\n' ∉ tool.toList) (mode : Mode) :
    holdsFenceBelow (value.resolve tool mode).toList = false := by
  by_cases hpath : value.path = []
  · rw [Staged.resolve_of_root hpath]
    exact holdsFenceBelow_of_notMem (by simp [hroot])
  · have htext : (value.query tool mode).toList = ("$(echo \"$".toList ++ value.root.toList ++
        "\" | ".toList ++ tool.toList ++ " ".toList ++ mode.flag.toList ++ " '".toList) ++
          (value.queryPath.toList.flatMap shellQuoteChar ++ '\'' :: [')']) := by
      simp [Staged.toList_query, shellQuote, shellQuoteBody]
    have hfront : '\n' ∉ "$(echo \"$".toList ++ value.root.toList ++ "\" | ".toList ++
        tool.toList ++ " ".toList ++ mode.flag.toList ++ " '".toList := by
      cases mode <;> simp [hroot, htool, Mode.flag]
    have hend : holdsFenceBelow [')'] = false := rfl
    rw [Staged.resolve_of_path hpath, htext, holdsFenceBelow_append hfront,
      holdsFenceBelow_solid (by decide), keepsMargins_shellQuoteChar.holdsFenceBelow_flatMap,
      holdsFenceBelow_queryPath, hend, Bool.or_false]

/-! ## Arguments -/

private theorem notMem_cutMarker (index : Nat) {c : Char} {text : List Char} (h : c ∉ text) :
    c ∉ (cutMarker index text).1 ∧ c ∉ (cutMarker index text).2 := by
  rw [cutMarker]
  cases hsplit : Text.splitFirst? (jsonMarker index).toList text with
  | none => exact ⟨h, List.not_mem_nil⟩
  | some pieces =>
    rw [Text.eq_append_of_splitFirst? hsplit, List.mem_append, List.mem_append] at h
    exact ⟨fun hmem ↦ h (.inl (.inl hmem)), fun hmem ↦ h (.inr hmem)⟩

private theorem holdsFenceBelow_of_spliceShell {index : Nat} {text : List Char}
    {leaves : List Staged} {word : String} (htext : '\n' ∉ text)
    (hleaves : ∀ leaf ∈ leaves, '\n' ∉ leaf.root.toList) (htool : '\n' ∉ tool.toList)
    (h : (spliceShell index text leaves).eval tool = .ok word) :
    holdsFenceBelow word.toList = false := by
  have hquoted : ∀ piece : List Char, '\n' ∉ piece →
      holdsFenceBelow (piece.flatMap shellQuoteChar) = false := by
    intro piece hpiece
    rw [keepsMargins_shellQuoteChar.holdsFenceBelow_flatMap, holdsFenceBelow_of_notMem hpiece]
  induction leaves generalizing index text word with
  | nil =>
    cases h
    rw [shellQuoteBody, String.toList_ofList, String.toList_ofList]
    exact hquoted text htext
  | cons first leaves ih =>
    obtain ⟨hfirst, hleaves⟩ := List.forall_mem_cons.mp hleaves
    -- A marker that was dropped with its key is not found. The pieces are then the whole text and
    -- nothing, and they are on one line as well.
    obtain ⟨hbefore, hafter⟩ := notMem_cutMarker index htext
    obtain ⟨others, hothers⟩ := exists_eval_spliceShell tool (index + 1) (cutMarker index text).2
      leaves
    rw [eval_spliceShell_cons hothers] at h
    have hword : (shellQuoteBody (String.ofList (cutMarker index text).1) ++ inset tool first ++
        others).toList = (cutMarker index text).1.flatMap shellQuoteChar ++ '\'' :: (['"'] ++
          ((first.resolve tool .json).toList ++ '"' :: (['\''] ++ others.toList))) := by
      simp [shellQuoteBody, inset]
    rw [← Except.ok.inj h, hword, holdsFenceBelow_solid (by decide), hquoted _ hbefore,
      holdsFenceBelow_append (by decide), holdsFenceBelow_solid (by decide),
      holdsFenceBelow_resolve hfirst htool, holdsFenceBelow_append (by decide),
      ih hafter hleaves hothers, Bool.or_false, Bool.or_false]

theorem exists_of_eval_bind {α β : Type} {emission : Emission α} {f : α → Emission β} {result : β}
    (h : (emission >>= f).eval tool = .ok result) :
    ∃ value, emission.eval tool = .ok value ∧ (f value).eval tool = .ok result := by
  rw [Emission.eval_bind] at h
  cases hvalue : emission.eval tool with
  | error error =>
    rw [hvalue] at h
    cases h
  | ok value =>
    rw [hvalue] at h
    exact ⟨value, rfl, h⟩

private theorem holdsFenceBelow_of_shellJson {value : Value} {word : String}
    (hleaves : ∀ leaf ∈ value.stagedLeaves, '\n' ∉ leaf.root.toList) (htool : '\n' ∉ tool.toList)
    (h : (shellJson value).eval tool = .ok word) : holdsFenceBelow word.toList = false := by
  obtain ⟨text, htext, h⟩ := exists_of_eval_bind h
  obtain ⟨body, hbody, h⟩ := exists_of_eval_bind h
  cases h
  rw [markedJson] at htext
  split at htext
  · next hjson =>
    cases htext
    rw [mark_snd] at hbody
    have hword : ("'" ++ body ++ "'").toList = ['\''] ++ (body.toList ++ ['\'']) := by simp
    rw [hword, holdsFenceBelow_between (by decide) (by decide),
      holdsFenceBelow_of_spliceShell (feed_notMem_jsonAt? hjson) hleaves htool hbody]
  · cases htext

/-- The argument of a call: an expression in double quotes, or a word that holds JSON. -/
def callArgument : Value → Emission String
  | .staged value => do return "\"" ++ (← Emission.json value) ++ "\""
  | args => shellJson args

theorem holdsFenceBelow_of_callArgument {args : Value} {argument : String}
    (hleaves : ∀ leaf ∈ args.stagedLeaves, '\n' ∉ leaf.root.toList) (htool : '\n' ∉ tool.toList)
    (h : (callArgument args).eval tool = .ok argument) :
    holdsFenceBelow argument.toList = false := by
  unfold callArgument at h
  split at h
  · next value =>
    have hroot : '\n' ∉ value.root.toList := hleaves value (List.mem_singleton_self value)
    cases h
    have htext : ("\"" ++ value.resolve tool .json ++ "\"").toList =
        ['"'] ++ ((value.resolve tool .json).toList ++ ['"']) := by
      simp
    change holdsFenceBelow ("\"" ++ value.resolve tool .json ++ "\"").toList = false
    rw [htext, holdsFenceBelow_between (by decide) (by decide),
      holdsFenceBelow_resolve hroot htool]
  · exact holdsFenceBelow_of_shellJson hleaves htool h

end Markdown

end Runbook
