import Runbook.Proofs.Resolution
import Runbook.Proofs.Splicing

/-!
# Texts that a search for a marker passes over

Markers are looked for in texts in which others have been replaced already. So a search meets pieces
of JSON, other markers and expressions of the shell, and it has to pass over all of them
(`Passes`). For other markers this is because their numbers differ. Expressions hold query paths,
which are pieces of JSON again, quoted for the shell, and the name of the query tool.
-/

namespace Runbook

namespace Markdown

open Text (Clear jsonChar)

/-! ## The characters of a marker -/

private theorem jsonChar_of_isNumberChar {c : Char} (h : isNumberChar c = true) :
    jsonChar c = [c] := by
  obtain ⟨hlow, hhigh⟩ := toNat_of_isNumberChar h
  have hother : ∀ d, isNumberChar d = false → c ≠ d := by
    rintro d hd rfl
    exact absurd (hd.symm.trans h) Bool.false_ne_true
  rw [jsonChar, if_neg (hother _ (by decide)), if_neg (hother _ (by decide)),
    if_neg (hother _ (by decide)), if_neg (hother _ (by decide)), if_neg (hother _ (by decide)),
    if_neg (hother _ (by decide)), if_neg (hother _ (by decide)), if_pos ⟨by omega, hhigh⟩]

/-- A marker is its number between two escapes of NUL, in quotes. -/
theorem jsonMarker_eq (index : Nat) :
    (jsonMarker index).toList =
      '"' :: (jsonChar '\x00' ++ (index.repr.toList ++ (jsonChar '\x00' ++ ['"']))) := by
  have hdigits : index.repr.toList.flatMap jsonChar = index.repr.toList := by
    have hall := all_isNumberChar_repr index
    have hsame : ∀ c ∈ index.repr.toList, jsonChar c = [c] :=
      fun c hc ↦ jsonChar_of_isNumberChar (List.all_eq_true.mp hall c hc)
    rw [List.flatMap_congr hsame, List.flatMap_singleton']
  simpa [jsonMarker, marker, Text.jsonString] using hdigits

theorem notMem_jsonMarker {c : Char} (hnumber : isNumberChar c = false) (hquote : c ≠ '"')
    (hescape : c ≠ '\\') (index : Nat) : c ∉ (jsonMarker index).toList := by
  have hother : ∀ text : List Char, text.all isNumberChar = true → c ∉ text := by
    intro text htext hmem
    exact absurd (hnumber.symm.trans (List.all_eq_true.mp htext c hmem)) Bool.false_ne_true
  have hnul : c ∉ jsonChar '\x00' := by
    change c ∉ '\\' :: ['u', '0', '0', '0', '0']
    rw [List.mem_cons, not_or]
    exact ⟨hescape, hother _ (by decide)⟩
  have hdigits := hother _ (all_isNumberChar_repr index)
  rw [jsonMarker_eq]
  simp only [List.mem_cons, List.mem_append, not_or, List.not_mem_nil, not_false_eq_true, and_true]
  exact ⟨hquote, hnul, hdigits, hnul, hquote⟩

private theorem jsonMarker_append_inj {i j : Nat} {x y : List Char}
    (h : (jsonMarker i).toList ++ x = (jsonMarker j).toList ++ y) : i = j ∧ x = y := by
  obtain ⟨hmarker, hxy⟩ := Text.jsonString_append_inj h
  have hchars := congrArg String.toList hmarker
  simp only [marker, String.toList_append, String.reduceToList] at hchars
  have hrepr := List.append_cancel_left (List.append_cancel_right hchars)
  exact ⟨Int.ofNat_inj.mp (eq_of_repr_eq (m := i) (n := j) hrepr), hxy⟩

/-! ## Texts that a search passes over -/

/-- A search for the marker passes over the text, whatever follows but a backslash. -/
structure Passes (index : Nat) (text : String) : Prop where
  head : text.toList.head? ≠ some '\\'
  clear : ∀ y : List Char, y.head? ≠ some '\\' →
    Clear (jsonMarker index).toList text.toList y

variable {index : Nat} {s t : String}

theorem Passes.append (hs : Passes index s) (ht : Passes index t) : Passes index (s ++ t) where
  head := by
    rw [String.toList_append]
    exact head?_append_ne hs.head ht.head
  clear y hy := by
    rw [String.toList_append, Text.clear_append]
    exact ⟨hs.clear _ (head?_append_ne ht.head hy), ht.clear y hy⟩

theorem Passes.no_jsonMarker (h : Passes index s) : ¬(jsonMarker index).toList <:+: s.toList :=
  (h.clear [] (by simp)).not_isInfix (jsonMarker_ne_nil index)

theorem passes_of_unmarked (index : Nat) (h : Unmarked s.toList) : Passes index s :=
  ⟨h.head?_ne, fun _ ↦ h.clear index⟩

theorem passes_of_notMem (index : Nat) (hquote : '"' ∉ s.toList)
    (hhead : s.toList.head? ≠ some '\\') : Passes index s :=
  ⟨hhead, fun y _ ↦ clear_of_notMem hquote y⟩

/-- A search passes over other markers. -/
theorem passes_jsonMarker {other : Nat} (h : other ≠ index) : Passes index (jsonMarker other) where
  head := head?_jsonMarker other
  clear y hy := by
    have hstart : ¬(jsonMarker index).toList <+: (jsonMarker other).toList ++ y := by
      rintro ⟨more, hmore⟩
      exact h (jsonMarker_append_inj hmore).1.symm
    have hbody : '"' ∉ jsonChar '\x00' ++ (other.repr.toList ++ jsonChar '\x00') := by
      have hdigits : '"' ∉ other.repr.toList := fun hmem ↦
        absurd (List.all_eq_true.mp (all_isNumberChar_repr other) _ hmem) (by decide)
      rw [List.mem_append, List.mem_append, not_or, not_or]
      exact ⟨by decide, hdigits, by decide⟩
    have hend := not_isPrefix_quote index (ne_escape hy)
    have htext : (jsonMarker other).toList =
        '"' :: ((jsonChar '\x00' ++ (other.repr.toList ++ jsonChar '\x00')) ++ ['"']) := by
      rw [jsonMarker_eq, List.append_assoc, List.append_assoc]
    rw [htext] at hstart ⊢
    rw [Clear, Text.clear_append]
    exact ⟨hstart, clear_of_notMem hbody _, hend, trivial⟩

private theorem isPrefix_of_flatMap {p x y : List Char} (hp : '\'' ∉ p)
    (h : p <+: x.flatMap shellQuoteChar ++ y) : p <+: x ++ y := by
  induction p generalizing x with
  | nil => exact List.nil_prefix
  | cons c p ih =>
    rw [List.mem_cons, not_or] at hp
    cases x with
    | nil => exact h
    | cons d x =>
      by_cases hd : d = '\''
      · subst hd
        exact absurd (List.cons_prefix_cons.mp h).1.symm hp.1
      · rw [List.flatMap_cons, shellQuoteChar, if_neg hd] at h
        obtain ⟨rfl, hrest⟩ := List.cons_prefix_cons.mp h
        exact List.cons_prefix_cons.mpr ⟨rfl, ih hp.2 hrest⟩

/-- Quoting for the shell brings no marker about. -/
theorem clear_shellQuote {x y : List Char} (h : Clear (jsonMarker index).toList x y) :
    Clear (jsonMarker index).toList (x.flatMap shellQuoteChar) y := by
  have hmarker : '\'' ∉ (jsonMarker index).toList :=
    notMem_jsonMarker (by decide) (by decide) (by decide) index
  induction x with
  | nil => trivial
  | cons c x ih =>
    rw [List.flatMap_cons, Text.clear_append]
    refine ⟨?_, ih h.2⟩
    by_cases hc : c = '\''
    · subst hc
      exact clear_of_notMem (by decide) _
    · rw [shellQuoteChar, if_neg hc]
      refine ⟨fun hprefix ↦ h.1 ?_, trivial⟩
      apply isPrefix_of_flatMap hmarker (x := c :: x)
      rwa [List.flatMap_cons, shellQuoteChar, if_neg hc]

theorem Passes.shellQuoteBody (h : Passes index s) : Passes index (shellQuoteBody s) where
  head := by
    have hhead := h.head
    rw [Runbook.shellQuoteBody, String.toList_ofList]
    cases htext : s.toList with
    | nil => simp
    | cons c rest =>
      rw [htext] at hhead
      by_cases hc : c = '\'' <;> simp_all [shellQuoteChar]
  clear y hy := by
    rw [Runbook.shellQuoteBody, String.toList_ofList]
    exact clear_shellQuote (h.clear y hy)

/-! ## Expressions hold no markers -/

private theorem unmarked_of_isNameChar {text : List Char} (h : text.all isNameChar = true) :
    Unmarked text := by
  refine unmarked_of_all (List.all_eq_true.mpr fun c hc ↦ ?_)
  have hname := List.all_eq_true.mp h c hc
  rw [Bool.and_eq_true, bne_iff_ne, bne_iff_ne]
  constructor <;>
    · rintro rfl
      exact absurd hname (by decide)

private theorem unmarked_queryText {segment : Segment}
    (h : ∀ name, segment = .key name → .char '\x00' ∉ name.points) :
    Unmarked segment.queryText.toList := by
  have hclose : Unmarked [']'] := unmarked_of_all (by decide)
  rcases Segment.toList_queryText segment with ⟨name, -, hname, htext⟩ | ⟨n, -, htext⟩ |
      ⟨name, hsegment, htext⟩ <;> rw [htext] <;> refine .plain (by decide) (by decide) ?_
  · exact unmarked_of_isNameChar (all_isNameChar hname)
  · exact (unmarked_number (all_isNumberChar_repr n)).append hclose
  · exact .string (h name hsegment) hclose

private theorem unmarked_pathChars {path : List Segment}
    (h : ∀ name, .key name ∈ path → .char '\x00' ∉ name.points) :
    Unmarked (Segment.pathChars path) := by
  induction path with
  | nil => exact .nil
  | cons segment rest ih =>
    rw [Segment.pathChars_cons]
    have hfirst : ∀ name, segment = .key name → .char '\x00' ∉ name.points := by
      rintro name rfl
      exact h name List.mem_cons_self
    have hrest := ih fun name hname ↦ h name (List.mem_cons_of_mem _ hname)
    exact (unmarked_queryText hfirst).append hrest

/-- A pattern that begins in a text ends there as well if it lacks the character that follows. -/
theorem isPrefix_of_append_cons {p x y : List Char} {c : Char} (hc : c ∉ p)
    (h : p <+: x ++ c :: y) : p <+: x := by
  rcases List.prefix_or_prefix_of_prefix h (List.prefix_append x (c :: y)) with hin | ⟨more, rfl⟩
  · exact hin
  · cases more with
    | nil => simp
    | cons d more =>
      rw [List.prefix_append_right_inj, List.cons_prefix_cons] at h
      exact absurd (by simp [h.1]) hc

/-- A text that holds no marker is passed over if a blank follows it. -/
theorem clear_of_blank {text : List Char} (h : ¬(jsonMarker index).toList <:+: text)
    (y : List Char) : Clear (jsonMarker index).toList text (' ' :: y) := by
  have hblank : ' ' ∉ (jsonMarker index).toList :=
    notMem_jsonMarker (by decide) (by decide) (by decide) index
  induction text with
  | nil => trivial
  | cons c text ih =>
    rw [List.infix_cons_iff, not_or] at h
    exact ⟨fun hprefix ↦ h.1 (isPrefix_of_append_cons (x := c :: text) hblank hprefix), ih h.2⟩

end Markdown

namespace Staged

/-- The value is found through a variable named by an identifier, along keys without NUL. -/
def IsPlain (value : Staged) : Prop :=
  value.hasIdentifierRoot = true ∧ ∀ name, .key name ∈ value.path → .char '\x00' ∉ name.points

end Staged

namespace Markdown

open Text (Clear jsonChar)

variable {index : Nat} {tool : String}

/-- A search passes over expressions. -/
theorem passes_resolve {value : Staged} (h : value.IsPlain)
    (htool : ¬(jsonMarker index).toList <:+: tool.toList) (mode : Mode) :
    Passes index (value.resolve tool mode) := by
  have hroot : '"' ∉ value.root.toList := by
    intro hmem
    have hall := (Staged.root_of_hasIdentifierRoot h.1).1
    simpa using List.all_eq_true.mp hall _ hmem
  by_cases hpath : value.path = []
  · rw [Staged.resolve_of_root hpath]
    apply passes_of_notMem <;> simp [hroot]
  · rw [Staged.resolve_of_path hpath]
    have hquery : Unmarked value.queryPath.toList := by
      rw [Staged.toList_queryPath hpath]
      split
      · exact unmarked_pathChars h.2
      · exact .plain (by decide) (by decide) (unmarked_pathChars h.2)
    refine ⟨by simp [Staged.toList_query], fun y _ ↦ ?_⟩
    have htext : (value.query tool mode).toList = "$(echo ".toList ++ ('"' :: ('$' ::
        value.root.toList ++ ('"' :: (" | ".toList ++ (tool.toList ++ (' ' :: (mode.flag.toList ++
          [' ', '\'']) ++ ((shellQuoteBody value.queryPath).toList ++ ['\'', ')']))))))) := by
      simp [Staged.toList_query, shellQuote]
    have hflag : '"' ∉ ' ' :: (mode.flag.toList ++ [' ', '\'']) := by cases mode <;> decide
    have hdollar : '"' ∉ '$' :: value.root.toList := by simp [hroot]
    have hword := (passes_of_unmarked index hquery).shellQuoteBody
    generalize shellQuoteBody value.queryPath = word at htext hword
    have hquoted := hword.clear ('\'' :: ')' :: y) (by simp)
    rw [htext, Text.clear_append]
    refine ⟨clear_of_notMem (by simp) _, not_isPrefix_quote index (ne_escape (by simp)), ?_⟩
    rw [Text.clear_append]
    refine ⟨clear_of_notMem hdollar _, not_isPrefix_quote index (ne_escape (by simp)), ?_⟩
    rw [Text.clear_append, Text.clear_append, Text.clear_append, Text.clear_append]
    exact ⟨clear_of_notMem (by simp) _, clear_of_blank htool _, clear_of_notMem hflag _, hquoted,
      clear_of_notMem (by simp) _⟩

end Markdown

end Runbook
