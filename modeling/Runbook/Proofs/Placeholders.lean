import Runbook.Proofs.KeptLeaves
import Runbook.Proofs.Markers

/-!
# Two ways to replace markers

Two writers put expressions in the place of markers. One replaces each marker wherever it is
(`eval_fillMarkers`). The other one cuts the text at the markers in the order of their numbers, and
a marker that is not behind the last cut takes all that is left of the text
(`eval_spliceShell_cases`).

Marked data holds the markers of the kept leaves. The first writer is right about all data. The
second one is right if and only if the kept leaves are all leaves in their order.
-/

namespace Runbook

namespace Markdown

open Text (Clear)

variable {index : Nat} {tool : String}

/-! ## Replacing the markers one by one -/

/-- What appending keeps, weaving keeps. -/
theorem woven_of_append {p : String → Prop} (happend : ∀ s t, p s → p t → p (s ++ t))
    {piece : String} {leaves pieces : List String} (hpieces : ∀ part ∈ piece :: pieces, p part)
    (hleaves : ∀ leaf ∈ leaves, p leaf) : p (woven piece leaves pieces) := by
  induction leaves generalizing piece pieces with
  | nil =>
    rw [woven]
    · exact hpieces piece List.mem_cons_self
    · intros
      contradiction
  | cons leaf leaves ih =>
    obtain ⟨hpiece, hpieces⟩ := List.forall_mem_cons.mp hpieces
    obtain ⟨hleaf, hleaves⟩ := List.forall_mem_cons.mp hleaves
    cases pieces with
    | nil => exact hpiece
    | cons part pieces => exact happend _ _ (happend _ _ hpiece hleaf) (ih hpieces hleaves)

private theorem replaceFirst_of_clear {x y : List Char} (h : Clear (jsonMarker index).toList x y)
    (new : List Char) :
    Text.replaceFirst (jsonMarker index).toList new (x ++ y) =
      x ++ Text.replaceFirst (jsonMarker index).toList new y := by
  rw [Text.replaceFirst, Text.replaceFirst, h.splitFirst?_append]
  cases Text.splitFirst? (jsonMarker index).toList y with
  | none => rfl
  | some pieces => simp

private theorem replaceFirst_self {x y : List Char}
    (h : Clear (jsonMarker index).toList x ((jsonMarker index).toList ++ y)) (new : List Char) :
    Text.replaceFirst (jsonMarker index).toList new (x ++ ((jsonMarker index).toList ++ y)) =
      x ++ new ++ y := by
  rw [Text.replaceFirst, h.splitFirst?_self (jsonMarker_ne_nil index)]

private theorem replaceFirst_nil (new : List Char) :
    Text.replaceFirst (jsonMarker index).toList new [] = [] := by
  obtain ⟨rest, hrest⟩ := toList_jsonMarker index
  rw [hrest]
  rfl

variable {piece : String} {pieces : List String} {labels : List Nat} {leaf : Nat → Staged}

private theorem head?_woven {text : Nat → String}
    (hpieces : ∀ part ∈ piece :: pieces, Unmarked part.toList)
    (hhead : ∀ label ∈ labels, (text label).toList.head? ≠ some '\\') :
    (woven piece (labels.map text) pieces).toList.head? ≠ some '\\' := by
  refine woven_of_append (p := fun s ↦ s.toList.head? ≠ some '\\') ?_ ?_ ?_
  · intro s t hs ht
    rw [String.toList_append]
    exact head?_append_ne hs ht
  · exact fun part hpart ↦ (hpieces part hpart).head?_ne
  · exact List.forall_mem_map.mpr hhead

/-- The text that stands in each gap can be replaced alone. -/
theorem replaceFirst_woven (index : Nat) (text : Nat → String) (new : String)
    (hlength : pieces.length = labels.length)
    (hpieces : ∀ part ∈ piece :: pieces, Unmarked part.toList)
    (hnodup : labels.Nodup) (hself : text index = jsonMarker index)
    (hhead : ∀ label ∈ labels, (text label).toList.head? ≠ some '\\')
    (hother : ∀ label ∈ labels, label ≠ index → Passes index (text label)) :
    Text.replaceFirst (jsonMarker index).toList new.toList
        (woven piece (labels.map text) pieces).toList =
      (woven piece (labels.map (Function.update text index new)) pieces).toList := by
  induction labels generalizing piece pieces with
  | nil =>
    obtain rfl := List.eq_nil_of_length_eq_zero hlength
    have hpiece := hpieces piece List.mem_cons_self
    have hreplaced := replaceFirst_of_clear (hpiece.clear index (y := []) (by simp)) new.toList
    rw [List.append_nil, replaceFirst_nil, List.append_nil] at hreplaced
    exact hreplaced
  | cons label labels ih =>
    obtain ⟨part, pieces, rfl⟩ := List.exists_cons_of_length_eq_add_one hlength
    obtain ⟨hpiece, hrest⟩ := List.forall_mem_cons.mp hpieces
    obtain ⟨hlabel, hlabels⟩ := List.forall_mem_cons.mp hhead
    rw [List.nodup_cons] at hnodup
    have hafter := head?_woven hrest hlabels
    rw [List.map_cons, List.map_cons, woven, woven, String.toList_append, String.toList_append,
      String.toList_append, String.toList_append]
    by_cases heq : label = index
    · subst heq
      have hsame : labels.map (Function.update text label new) = labels.map text := by
        refine List.map_congr_left fun other hmem ↦ Function.update_of_ne ?_ _ _
        rintro rfl
        exact hnodup.1 hmem
      have hclear := hpiece.clear label (head?_append_ne (head?_jsonMarker label) hafter)
      rw [hself, List.append_assoc, replaceFirst_self hclear, Function.update_self, hsame]
    · have hpasses := (passes_of_unmarked index hpiece).append
        (hother label List.mem_cons_self heq)
      have hclear := hpasses.clear _ hafter
      rw [String.toList_append] at hclear
      rw [replaceFirst_of_clear hclear, Function.update_of_ne heq,
        ih (Nat.succ.inj hlength) hrest hnodup.2 hlabels
          fun other hmem ↦ hother other (List.mem_cons_of_mem _ hmem)]

/-- What stands in a gap when the markers below `index` have been replaced. -/
def replaced (tool : String) (leaf : Nat → Staged) (index label : Nat) : String :=
  if label < index then (leaf label).resolve tool .raw else jsonMarker label

private theorem replaced_succ (tool : String) (leaf : Nat → Staged) (index : Nat) :
    Function.update (replaced tool leaf index) index ((leaf index).resolve tool .raw) =
      replaced tool leaf (index + 1) := by
  funext label
  by_cases heq : label = index
  · subst heq
    rw [Function.update_self, replaced, if_pos (Nat.lt_succ_self label)]
  · have hiff : label < index ↔ label < index + 1 := by omega
    rw [Function.update_of_ne heq, replaced, replaced]
    simp only [hiff]

/-- The markers are replaced in the order of their numbers, wherever they stand. -/
theorem eval_fillMarkers (htool : ∀ index, ¬(jsonMarker index).toList <:+: tool.toList)
    (hlength : pieces.length = labels.length)
    (hpieces : ∀ part ∈ piece :: pieces, Unmarked part.toList) (hnodup : labels.Nodup)
    (hleaf : ∀ label ∈ labels, (leaf label).IsPlain) (index count : Nat) :
    (fillMarkers index (woven piece (labels.map (replaced tool leaf index)) pieces).toList
        ((List.range' index count).map leaf)).eval tool =
      .ok (woven piece (labels.map (replaced tool leaf (index + count))) pieces).toList := by
  induction count generalizing index with
  | zero => rfl
  | succ count ih =>
    have hexpression : ∀ label ∈ labels, ∀ other, Passes other ((leaf label).resolve tool .raw) :=
      fun label hlabel other ↦ passes_resolve (hleaf label hlabel) (htool other) .raw
    have hreplaced := replaceFirst_woven index (replaced tool leaf index)
      ((leaf index).resolve tool .raw) hlength hpieces hnodup (if_neg (Nat.lt_irrefl index)) ?_ ?_
    · have hcount : index + 1 + count = index + (count + 1) := by omega
      rw [replaced_succ] at hreplaced
      rw [List.range'_succ, List.map_cons, fillMarkers, Emission.raw, Emission.ask_bind,
        Emission.eval, Emission.done_bind, Lookup.resolve, hreplaced, ih, hcount]
    · intro label hlabel
      rw [replaced]
      split
      · exact (hexpression label hlabel 0).head
      · exact head?_jsonMarker label
    · intro label hlabel hne
      rw [replaced]
      split
      · exact hexpression label hlabel index
      · exact passes_jsonMarker hne

/-! ## Cutting at the markers in order -/

private theorem shellQuoteBody_append (s t : String) :
    shellQuoteBody (s ++ t) = shellQuoteBody s ++ shellQuoteBody t := by
  simp [shellQuoteBody]

/-- Quoting leaves markers as they are. -/
theorem shellQuoteBody_jsonMarker (index : Nat) :
    shellQuoteBody (jsonMarker index) = jsonMarker index := by
  have hmarker : '\'' ∉ (jsonMarker index).toList :=
    notMem_jsonMarker (by decide) (by decide) (by decide) index
  have hsame : ∀ c ∈ (jsonMarker index).toList, shellQuoteChar c = [c] := by
    intro c hc
    rw [shellQuoteChar, if_neg]
    rintro rfl
    exact hmarker hc
  rw [shellQuoteBody, List.flatMap_congr hsame, List.flatMap_singleton', String.ofList_toList]

/-- A marker that is not cut out is still there when the text is quoted. -/
theorem isInfix_shellQuoteBody {label : Nat} {text : String}
    (h : (jsonMarker label).toList <:+: text.toList) :
    (jsonMarker label).toList <:+: (shellQuoteBody text).toList := by
  obtain ⟨front, back, htext⟩ := h
  have hstring : text = String.ofList front ++ jsonMarker label ++ String.ofList back := by
    rw [← String.toList_inj, ← htext]
    simp
  rw [hstring, shellQuoteBody_append, shellQuoteBody_append, shellQuoteBody_jsonMarker,
    String.toList_append, String.toList_append]
  exact List.infix_append _ _ _

private theorem cutMarker_nil : cutMarker index [] = ([], []) := by
  obtain ⟨rest, hrest⟩ := toList_jsonMarker index
  rw [cutMarker, hrest]
  rfl

private theorem cutMarker_of_clear {x y : List Char} (h : Clear (jsonMarker index).toList x y) :
    cutMarker index (x ++ y) = (x ++ (cutMarker index y).1, (cutMarker index y).2) := by
  rw [cutMarker, cutMarker, h.splitFirst?_append]
  cases Text.splitFirst? (jsonMarker index).toList y <;> rfl

private theorem cutMarker_self {x y : List Char}
    (h : Clear (jsonMarker index).toList x ((jsonMarker index).toList ++ y)) :
    cutMarker index (x ++ ((jsonMarker index).toList ++ y)) = (x, y) := by
  rw [cutMarker, h.splitFirst?_self (jsonMarker_ne_nil index), Option.getD_some]

/-- The expression of a leaf in double quotes, between closed and opened single quotes. -/
def inset (tool : String) (leaf : Staged) : String := "'\"" ++ leaf.resolve tool .json ++ "\"'"

/-- Every leaf leaves its expression, and before it all that the cut takes. -/
theorem eval_spliceShell_cons {text : List Char} {first : Staged} {leaves : List Staged}
    {word : String}
    (h : (spliceShell (index + 1) (cutMarker index text).2 leaves).eval tool = .ok word) :
    (spliceShell index text (first :: leaves)).eval tool =
      .ok (shellQuoteBody (String.ofList (cutMarker index text).1) ++ inset tool first ++
        word) := by
  simp [spliceShell, h, Emission.json, Emission.eval, Except.bind, Lookup.resolve, inset,
    String.append_assoc]

theorem exists_eval_spliceShell (tool : String) (index : Nat) (text : List Char)
    (leaves : List Staged) :
    ∃ word, (spliceShell index text leaves).eval tool = .ok word := by
  induction leaves generalizing index text with
  | nil => exact ⟨_, rfl⟩
  | cons first leaves ih =>
    obtain ⟨word, hword⟩ := ih (index + 1) (cutMarker index text).2
    exact ⟨_, eval_spliceShell_cons hword⟩

/-- Pieces quoted for the shell with the expressions of leaves between them. -/
def wordBody (tool : String) (leaves : List Staged) (piece : String) (pieces : List String) :
    String :=
  woven (shellQuoteBody piece) (leaves.map (inset tool)) (pieces.map shellQuoteBody)

private theorem wordBody_cons (tool : String) (first : Staged) (leaves : List Staged)
    (piece part : String) (pieces : List String) :
    wordBody tool (first :: leaves) piece (part :: pieces) =
      shellQuoteBody piece ++ inset tool first ++ wordBody tool leaves part pieces := rfl

/-- If the markers are met in the order of their numbers, the word is the right one. Otherwise a
marker stays in it, or there are more expressions in it than there were markers. -/
theorem eval_spliceShell_cases (tool : String) (leaf : Nat → Staged)
    (hlength : pieces.length = labels.length)
    (hpieces : ∀ part ∈ piece :: pieces, Unmarked part.toList) (index count : Nat) :
    ∃ word,
      (spliceShell index (woven piece (labels.map jsonMarker) pieces).toList
          ((List.range' index count).map leaf)).eval tool = .ok word ∧
        ((labels = List.range' index count ∧
            word = wordBody tool (labels.map leaf) piece pieces) ∨
          labels ≠ List.range' index count ∧
            ((∃ label, (jsonMarker label).toList <:+: word.toList) ∨
              (wordBody tool (labels.map leaf) piece pieces).length < word.length)) := by
  induction count generalizing index piece labels pieces with
  | zero =>
    refine ⟨_, rfl, ?_⟩
    rw [String.ofList_toList]
    cases labels with
    | nil =>
      obtain rfl := List.eq_nil_of_length_eq_zero hlength
      exact .inl ⟨rfl, rfl⟩
    | cons label labels =>
      obtain ⟨part, pieces, rfl⟩ := List.exists_cons_of_length_eq_add_one hlength
      refine .inr ⟨List.cons_ne_nil _ _, .inl ⟨label, isInfix_shellQuoteBody ?_⟩⟩
      rw [List.map_cons, woven, String.toList_append, String.toList_append]
      exact List.infix_append _ _ _
  | succ count ih =>
    rw [List.range'_succ, List.map_cons]
    obtain ⟨hpiece, hrest⟩ := List.forall_mem_cons.mp hpieces
    cases labels with
    | nil =>
      -- The cut takes the whole text, and an expression too many follows it.
      obtain rfl := List.eq_nil_of_length_eq_zero hlength
      have hcut : cutMarker index piece.toList = (piece.toList, []) := by
        have hclear := cutMarker_of_clear (hpiece.clear index (y := []) (by simp))
        rwa [List.append_nil, cutMarker_nil, List.append_nil] at hclear
      obtain ⟨word, hword⟩ := exists_eval_spliceShell tool (index + 1)
        (cutMarker index piece.toList).2 ((List.range' (index + 1) count).map leaf)
      refine ⟨_, eval_spliceShell_cons hword, .inr ⟨(List.cons_ne_nil _ _).symm, .inr ?_⟩⟩
      have htext : woven piece (List.map jsonMarker []) [] = piece := rfl
      change (shellQuoteBody piece).length < _
      have hopening : "'\"".length = 2 := rfl
      rw [htext, hcut, String.ofList_toList, inset]
      simp only [String.length_append, hopening]
      omega
    | cons label labels =>
      obtain ⟨part, pieces, rfl⟩ := List.exists_cons_of_length_eq_add_one hlength
      have hafter := head?_woven hrest fun other (_ : other ∈ labels) ↦ head?_jsonMarker other
      have htext : (woven piece ((label :: labels).map jsonMarker) (part :: pieces)).toList =
          piece.toList ++ ((jsonMarker label).toList ++
            (woven part (labels.map jsonMarker) pieces).toList) := by
        simp [woven]
      rw [htext]
      by_cases heq : label = index
      · subst heq
        have hclear := hpiece.clear label (head?_append_ne (head?_jsonMarker label) hafter)
        obtain ⟨word, hword, hcases⟩ := ih (Nat.succ.inj hlength) hrest (label + 1)
        refine ⟨_, eval_spliceShell_cons (by rwa [cutMarker_self hclear]), ?_⟩
        rw [cutMarker_self hclear, String.ofList_toList, List.map_cons, wordBody_cons]
        rcases hcases with ⟨hlabels, hword⟩ | ⟨hlabels, ⟨other, hother⟩ | hlonger⟩
        · exact .inl ⟨by rw [← hlabels], by rw [hword]⟩
        · refine .inr ⟨fun h ↦ hlabels (List.tail_eq_of_cons_eq h), .inl ⟨other, ?_⟩⟩
          rw [String.toList_append]
          exact hother.trans (List.suffix_append _ _).isInfix
        · refine .inr ⟨fun h ↦ hlabels (List.tail_eq_of_cons_eq h), .inr ?_⟩
          simp only [String.length_append]
          omega
      · -- The cut passes over this marker, whether it finds its own behind it or not.
        have hpasses := (passes_of_unmarked index hpiece).append (passes_jsonMarker heq)
        have hclear := hpasses.clear _ hafter
        rw [String.toList_append] at hclear
        rw [← List.append_assoc]
        obtain ⟨word, hword⟩ := exists_eval_spliceShell tool (index + 1) _
          ((List.range' (index + 1) count).map leaf)
        refine ⟨_, eval_spliceShell_cons hword,
          .inr ⟨fun h ↦ heq (List.head_eq_of_cons_eq h), .inl ⟨label, ?_⟩⟩⟩
        have hkept : (jsonMarker label).toList <:+: (shellQuoteBody (String.ofList
            (piece.toList ++ (jsonMarker label).toList ++
              (cutMarker index (woven part (labels.map jsonMarker) pieces).toList).1))).toList := by
          apply isInfix_shellQuoteBody
          rw [String.toList_ofList]
          exact List.infix_append _ _ _
        rw [cutMarker_of_clear hclear, String.toList_append, String.toList_append,
          List.append_assoc]
        exact hkept.trans (List.prefix_append _ _).isInfix

/-! ## The text and the word of composite data -/

/-- Pieces between which the texts of the staged leaves stand in the JSON text of data, whatever
scalars are put in their place. -/
def ArePieces (style : JsonStyle) (value : Value) (piece : String) (pieces : List String) : Prop :=
  pieces.length = value.stagedLeaves.length ∧
    ∀ (leaf : Nat → Value) (text : Nat → String),
      Spells style leaf (fun index ↦ (text index).toList) →
      (value.fill leaf 0).json? style =
        some (woven piece ((List.range value.stagedLeaves.length).map text) pieces)

private theorem isPlain_indented (width : Nat) : IsPlain (.indented width) where
  itemEnd := isPlain_compact.itemEnd
  keyEnd := by
    change Unmarked ": ".toList
    exact unmarked_of_all (by decide)

private theorem length_keptLeaves (value : Value) :
    (value.keptLeaves 0).length = value.dumped.stagedLeaves.length := by
  rw [Value.stagedLeaves_dumped (Value.lists_getD value.stagedLeaves ⟨"", []⟩), List.length_map]

/-- The text with markers has a marker for each kept leaf, in their order. -/
theorem exists_pieces {style : JsonStyle} (hstyle : IsPlain style) {value : Value}
    (h : value.IsComposite) :
    ∃ piece pieces, ArePieces style value.dumped piece pieces ∧
      (∀ part ∈ piece :: pieces, Unmarked part.toList) ∧
      (mark 0 value).1.json? style =
        some (woven piece ((value.keptLeaves 0).map jsonMarker) pieces) := by
  obtain ⟨⟨first, rest⟩, hskeleton⟩ := exists_isSkeleton hstyle 0 value.dumped h.isJson_dumped
  have hgaps : rest.length = value.dumped.stagedLeaves.length := hskeleton.gaps
  have hweave : ∀ leaf text, Spells style leaf (fun index ↦ (text index : String).toList) →
      (value.dumped.fill leaf 0).json? style = some (woven (String.ofList first)
        ((List.range value.dumped.stagedLeaves.length).map text) (rest.map String.ofList)) := by
    intro leaf text hleaf
    have htext := hskeleton.weave leaf _ 0 hleaf
    rw [Value.json?, htext, ofList_weave, hgaps, List.range_eq_range']
    simp only [String.ofList_toList]
  refine ⟨String.ofList first, rest.map String.ofList, ⟨by rw [List.length_map, hgaps], hweave⟩,
    ?_, ?_⟩
  · rw [← List.map_cons]
    simp only [List.forall_mem_map, String.toList_ofList]
    exact hskeleton.unmarked
  · have hlabels := Value.lists_getD (value.keptLeaves 0) 0
    have hfill := Value.dumped_fill (fun _ ↦ rfl) (hlabels.map fun label ↦ .text (marker label))
    have htexts := hlabels.map jsonMarker
    rw [Value.Lists, List.length_map, length_keptLeaves, ← List.range_eq_range'] at htexts
    rw [Value.mark_fst, hfill, ← htexts]
    refine hweave _ _ fun index depth ↦ ?_
    rw [Value.jsonAt?, String.ofList_toList, jsonMarker]

section Composite

variable {value : Value}

private theorem nodup_keptLeaves (value : Value) : (value.keptLeaves 0).Nodup := by
  obtain ⟨kept, hperm, hsublist⟩ := value.keptLeaves_subperm 0
  exact hperm.nodup_iff.mp (hsublist.nodup List.nodup_range')

private theorem lt_of_mem_keptLeaves {label : Nat} (h : label ∈ value.keptLeaves 0) :
    label < value.stagedLeaves.length := by
  have hrange := (value.keptLeaves_subperm 0).subset h
  rw [← List.range_eq_range'] at hrange
  exact List.mem_range.mp hrange

private theorem isPlain_of_mem_keptLeaves (hplain : ∀ leaf ∈ value.stagedLeaves, leaf.IsPlain)
    (hleaf : Value.Lists leaf 0 value.stagedLeaves) {label : Nat}
    (h : label ∈ value.keptLeaves 0) : (leaf label).IsPlain := by
  apply hplain
  have hrange := (value.keptLeaves_subperm 0).subset h
  rw [← hleaf]
  exact List.mem_map_of_mem hrange

private theorem passes_inset {leaf : Staged} (h : leaf.IsPlain)
    (htool : ¬(jsonMarker index).toList <:+: tool.toList) : Passes index (inset tool leaf) := by
  have hexpression := passes_resolve h htool .json
  have htext : (inset tool leaf).toList =
      '\'' :: '"' :: ((leaf.resolve tool .json).toList ++ ['"', '\'']) := by
    simp [inset]
  refine ⟨by simp [htext], fun y hy ↦ ?_⟩
  have hopen := not_isPrefix_quote index (ne_escape
    (head?_append_ne hexpression.head (y := '"' :: '\'' :: y) (by simp)))
  have hclose := not_isPrefix_quote index (ne_escape (y := '\'' :: y) (by simp))
  have hend : ∀ y, Clear (jsonMarker index).toList ['\''] y := clear_of_notMem (by decide)
  rw [htext, Clear, Clear, Text.clear_append, List.append_assoc]
  exact ⟨(hend _).1, hopen, hexpression.clear _ (by simp), hclose, hend y⟩

/-- Quoted pieces with the expressions of leaves between them hold no marker. -/
theorem passes_wordBody {leaves : List Staged}
    (hpieces : ∀ part ∈ piece :: pieces, Unmarked part.toList)
    (hplain : ∀ leaf ∈ leaves, leaf.IsPlain)
    (htool : ¬(jsonMarker index).toList <:+: tool.toList) :
    Passes index (wordBody tool leaves piece pieces) := by
  refine woven_of_append (fun _ _ ↦ .append) ?_ ?_
  · rw [← List.map_cons, List.forall_mem_map]
    exact fun part hpart ↦ (passes_of_unmarked index (hpieces part hpart)).shellQuoteBody
  · rw [List.forall_mem_map]
    exact fun leaf hleaf ↦ passes_inset (hplain leaf hleaf) htool

/-- Replacing the markers wherever they are puts every kept leaf in its place. -/
theorem eval_spliceJson {width : Nat} (hwidth : width < Emission.lengthLimit)
    (htool : ∀ index, ¬(jsonMarker index).toList <:+: tool.toList)
    (hplain : ∀ leaf ∈ value.stagedLeaves, leaf.IsPlain)
    (hlength : pieces.length = (value.keptLeaves 0).length)
    (hpieces : ∀ part ∈ piece :: pieces, Unmarked part.toList)
    (hjson : (mark 0 value).1.json? (.indented width) =
      some (woven piece ((value.keptLeaves 0).map jsonMarker) pieces)) :
    (spliceJson (some width) value).eval tool =
      .ok (woven piece (value.dumped.stagedLeaves.map fun leaf ↦ leaf.resolve tool .raw)
        pieces) := by
  have hleaf := Value.lists_getD value.stagedLeaves ⟨"", []⟩
  generalize (fun index ↦ value.stagedLeaves.getD index ⟨"", []⟩) = leaf at hleaf
  have hfill := eval_fillMarkers htool hlength hpieces (nodup_keptLeaves value)
    (fun label hlabel ↦ isPlain_of_mem_keptLeaves hplain hleaf hlabel) 0 value.stagedLeaves.length
  have hbefore : replaced tool leaf 0 = jsonMarker := funext fun label ↦ if_neg (Nat.not_lt_zero _)
  have hafter : (value.keptLeaves 0).map (replaced tool leaf (0 + value.stagedLeaves.length)) =
      value.dumped.stagedLeaves.map fun leaf ↦ leaf.resolve tool .raw := by
    rw [Value.stagedLeaves_dumped hleaf, List.map_map]
    refine List.map_congr_left fun label hlabel ↦ if_pos ?_
    rw [Nat.zero_add]
    exact lt_of_mem_keptLeaves hlabel
  rw [hbefore, hafter, hleaf] at hfill
  simp [spliceJson, Emission.checkBlanks, hwidth, markedJson, hjson, mark_snd, hfill,
    Emission.eval, Except.bind]

/-- Cutting at the markers in order puts every kept leaf in its place if and only if all leaves are
kept in their order. -/
theorem eval_shellJson_iff (htool : ∀ index, ¬(jsonMarker index).toList <:+: tool.toList)
    (hplain : ∀ leaf ∈ value.stagedLeaves, leaf.IsPlain)
    (hlength : pieces.length = (value.keptLeaves 0).length)
    (hpieces : ∀ part ∈ piece :: pieces, Unmarked part.toList)
    (hjson : (mark 0 value).1.json? .compact =
      some (woven piece ((value.keptLeaves 0).map jsonMarker) pieces)) :
    (shellJson value).eval tool =
        .ok ("'" ++ wordBody tool value.dumped.stagedLeaves piece pieces ++ "'") ↔
      value.keptLeaves 0 = List.range value.stagedLeaves.length := by
  have hleaf := Value.lists_getD value.stagedLeaves ⟨"", []⟩
  generalize (fun index ↦ value.stagedLeaves.getD index ⟨"", []⟩) = leaf at hleaf
  obtain ⟨word, hword, hcases⟩ := eval_spliceShell_cases tool leaf hlength hpieces 0
    value.stagedLeaves.length
  rw [hleaf] at hword
  have heval : (shellJson value).eval tool = .ok ("'" ++ word ++ "'") := by
    simp [shellJson, markedJson, hjson, mark_snd, hword, Emission.eval, Except.bind]
  rw [heval, Value.stagedLeaves_dumped hleaf, List.range_eq_range', Except.ok.injEq,
    String.append_left_inj, String.append_right_inj]
  rcases hcases with ⟨hlabels, hword⟩ | ⟨hlabels, hcases⟩
  · exact iff_of_true hword hlabels
  · refine iff_of_false ?_ hlabels
    rintro rfl
    rcases hcases with ⟨label, hlabel⟩ | hlonger
    · have hpasses := passes_wordBody hpieces (List.forall_mem_map.mpr fun label hlabel ↦
        isPlain_of_mem_keptLeaves hplain hleaf hlabel) (htool label)
      exact hpasses.no_jsonMarker hlabel
    · exact absurd hlonger (Nat.lt_irrefl _)

end Composite

/-- **Both writers put the kept leaves in their places, the second one if all leaves are kept in
their order.** The JSON text of composite data is the text of the dumped data with the expressions
of its leaves in their places. The word of the shell is the quoted text with the expressions in the
same places if and only if merging keys neither drops a leaf nor moves one, as it never does where
the keys have different texts. No marker is left in either. -/
theorem run_shellJson_iff_keptLeaves (value : Value) (h : value.IsComposite)
    (hplain : ∀ leaf ∈ value.stagedLeaves, leaf.IsPlain) (tool : String)
    (htool : ∀ index, ¬(jsonMarker index).toList <:+: tool.toList) (cache : Cache)
    (hcache : cache.Sound tool) (width : Nat) (hwidth : width < Emission.lengthLimit) :
    ∃ part parts piece pieces,
      ArePieces (.indented width) value.dumped part parts ∧
      ArePieces .compact value.dumped piece pieces ∧
      let text := woven part (value.dumped.stagedLeaves.map fun leaf ↦ leaf.resolve tool .raw) parts
      let word := "'" ++ wordBody tool value.dumped.stagedLeaves piece pieces ++ "'"
      ((spliceJson (some width) value).run tool cache).1 = .ok text ∧
      (((shellJson value).run tool cache).1 = .ok word ↔
        value.keptLeaves 0 = List.range value.stagedLeaves.length) ∧
      (value.KeysDiffer → value.keptLeaves 0 = List.range value.stagedLeaves.length) ∧
      ∀ index, ¬(jsonMarker index).toList <:+: text.toList ∧
        ¬(jsonMarker index).toList <:+: word.toList := by
  obtain ⟨part, parts, hparts, hpartsUnmarked, hindented⟩ :=
    exists_pieces (isPlain_indented width) h
  obtain ⟨piece, pieces, hpieces, hunmarked, hcompact⟩ := exists_pieces isPlain_compact h
  have hdumped : ∀ leaf ∈ value.dumped.stagedLeaves, leaf.IsPlain := by
    have hleaf := Value.lists_getD value.stagedLeaves ⟨"", []⟩
    rw [Value.stagedLeaves_dumped hleaf, List.forall_mem_map]
    exact fun label hlabel ↦ isPlain_of_mem_keptLeaves hplain hleaf hlabel
  have hlength := length_keptLeaves value
  refine ⟨part, parts, piece, pieces, hparts, hpieces, ?_, ?_, ?_, fun index ↦ ⟨?_, ?_⟩⟩
  · rw [(Emission.run_of_sound _ hcache).1]
    exact eval_spliceJson hwidth htool hplain (hparts.1.trans hlength.symm) hpartsUnmarked hindented
  · rw [(Emission.run_of_sound _ hcache).1]
    exact eval_shellJson_iff htool hplain (hpieces.1.trans hlength.symm) hunmarked hcompact
  · intro hkeys
    rw [hkeys.keptLeaves_eq 0, List.range_eq_range']
  · refine Passes.no_jsonMarker (woven_of_append (fun _ _ ↦ .append) ?_ ?_)
    · exact fun part hpart ↦ passes_of_unmarked index (hpartsUnmarked part hpart)
    · rw [List.forall_mem_map]
      exact fun leaf hleaf ↦ passes_resolve (hdumped leaf hleaf) (htool index) .raw
  · have hquote : Passes index "'" := passes_of_notMem index (by decide) (by decide)
    exact ((hquote.append (passes_wordBody hunmarked hdumped (htool index))).append
      hquote).no_jsonMarker

/-- A number and a text as keys with one text: the leaf moves into the place of the scalar. -/
theorem run_shellJson_iff_keptLeaves_scalar :
    let v : Staged := ⟨"A", [.key "it's"]⟩
    let w : Staged := ⟨"B", []⟩
    let value : Value := .mapping
      [(.int 1, .text "\""), (.text "1", .staged v), (.null, .tuple [.int (-3), .staged w])]
    value.IsComposite ∧ (∀ leaf ∈ value.stagedLeaves, leaf.IsPlain) ∧
      value.dumped.stagedLeaves = [v, w] ∧ value.keptLeaves 0 = [0, 1] ∧
      ∃ part parts piece pieces,
        ArePieces (.indented 2) value.dumped part parts ∧
        ArePieces .compact value.dumped piece pieces ∧
        ((spliceJson (some 2) value).run "jq" {}).1 =
          .ok (woven part [v.resolve "jq" .raw, w.resolve "jq" .raw] parts) ∧
        ((shellJson value).run "jq" {}).1 =
          .ok ("'" ++ wordBody "jq" [v, w] piece pieces ++ "'") := by
  intro v w value
  have h : value.IsComposite := by
    simp [value, Value.IsComposite, Value.AreComposite, Value.HasComposite, Value.IsKey]
  have hplain : ∀ leaf ∈ value.stagedLeaves, leaf.IsPlain := by
    have hv : v.IsPlain := ⟨by decide, by simp [v, PathKey.ofText]⟩
    have hw : w.IsPlain := ⟨by decide, by simp [w]⟩
    exact List.forall_mem_cons.mpr ⟨hv, List.forall_mem_singleton.mpr hw⟩
  have htool : ∀ index, ¬(jsonMarker index).toList <:+: "jq".toList := fun index ↦
    (clear_of_notMem (by decide) []).not_isInfix (jsonMarker_ne_nil index)
  obtain ⟨part, parts, piece, pieces, hparts, hpieces, htext, hword, -, -⟩ :=
    run_shellJson_iff_keptLeaves value h hplain "jq" htool {} (Cache.sound_empty _) 2 (by decide)
  exact ⟨h, hplain, rfl, rfl, part, parts, piece, pieces, hparts, hpieces, htext, hword.mpr rfl⟩

/-- A number and a text as keys with one text: the leaf that is dropped takes the whole text, and
the marker of the other one stays. -/
theorem run_shellJson_dropped_leaf :
    let value : Value := .mapping [(.int 1, .staged ⟨"A", []⟩), (.text "1", .staged ⟨"B", []⟩)]
    value.dumped = .mapping [(.text "1", .staged ⟨"B", []⟩)] ∧
      ((spliceJson (some 2) value).run "jq" {}).1 = .ok "\x7b\n  \"1\": $B\n\x7d" ∧
      ((shellJson value).run "jq" {}).1 =
        .ok "'\x7b\"1\":\"\\u00001\\u0000\"\x7d'\"$A\"''\"$B\"''" := by
  refine ⟨rfl, rfl, rfl⟩

end Markdown

end Runbook
