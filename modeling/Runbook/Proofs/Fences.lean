import Runbook.Markdown.Block
import Runbook.Proofs.ModuleLayout
import Runbook.Proofs.Replacements

/-!
# Fences

A fenced block ends at the first line that is a fence of at least as many characters as the one that
opens it. Here are the lines of a text that begin with a fence of three characters. They depend only
on how the lines begin. A character that is neither a blank nor a fence character hides everything
behind it, so a text may stand behind such a character, and its other characters may be quoted, and
the same lines begin with a fence.
-/

namespace Runbook

namespace Text

/-- The last line of a text and the first one of the text behind it are one line. -/
theorem exists_splitLines_append (x y : List Char) :
    ∃ lines last first rest, splitLines x = lines ++ [last] ∧
      splitLines y = first :: rest ∧
      splitLines (x ++ y) = lines ++ (last ++ first) :: rest := by
  induction x with
  | nil =>
    obtain ⟨first, rest, hy⟩ := List.exists_cons_of_ne_nil (splitLines_ne_nil y)
    exact ⟨[], [], first, rest, rfl, hy, hy⟩
  | cons c x ih =>
    obtain ⟨lines, last, first, rest, hx, hy, hxy⟩ := ih
    by_cases hc : c = '\n'
    · refine ⟨[] :: lines, last, first, rest, ?_, hy, ?_⟩ <;>
        simp [splitLines, hc, hx, hxy]
    · cases lines with
      | nil =>
        refine ⟨[], c :: last, first, rest, ?_, hy, ?_⟩ <;>
          simp [splitLines, hc, hx, hxy]
      | cons line lines =>
        refine ⟨(c :: line) :: lines, last, first, rest, ?_, hy, ?_⟩ <;>
          simp [splitLines, hc, hx, hxy]

theorem splitLines_append_feed (x y : List Char) :
    splitLines (x ++ '\n' :: y) = splitLines x ++ splitLines y := by
  obtain ⟨lines, last, first, rest, hx, hy, hxy⟩ := exists_splitLines_append x ('\n' :: y)
  rw [splitLines, if_pos rfl] at hy
  obtain ⟨rfl, rfl⟩ := List.cons.inj hy
  rw [hxy, hx, List.append_nil, List.append_assoc, List.singleton_append]

/-- A text on one line is a front of the first line of what follows. -/
theorem splitLines_append_of_notMem {x y first : List Char} {rest : List (List Char)}
    (h : '\n' ∉ x) (hy : splitLines y = first :: rest) :
    splitLines (x ++ y) = (x ++ first) :: rest := by
  obtain ⟨lines, last, head, tail, hx, hy', hxy⟩ := exists_splitLines_append x y
  rw [splitLines_of_notMem h, ← List.nil_append [x]] at hx
  rw [hy] at hy'
  obtain ⟨rfl, rfl⟩ := List.cons.inj hy'
  obtain ⟨rfl, hlast⟩ := List.append_inj' hx rfl
  rw [hxy, List.singleton_inj.mp hlast, List.nil_append]

/-- Lines that stand below another one. -/
def below (lines : List (List Char)) : List Char := lines.flatMap fun line ↦ '\n' :: line

theorem below_cons (line : List Char) (lines : List (List Char)) :
    below (line :: lines) = '\n' :: (line ++ below lines) := rfl

theorem below_append (lines more : List (List Char)) :
    below (lines ++ more) = below lines ++ below more := List.flatMap_append

theorem joinChars_cons (line : List Char) (lines : List (List Char)) :
    joinChars ['\n'] (line :: lines) = line ++ below lines := by
  induction lines generalizing line with
  | nil => exact (List.append_nil line).symm
  | cons next rest ih => rw [joinChars, ih, below_cons, List.append_assoc, List.singleton_append]

theorem toList_join_cons (line : String) (lines : List String) :
    (join "\n" (line :: lines)).toList = line.toList ++ below (lines.map String.toList) := by
  rw [join, String.toList_ofList, List.map_cons]
  exact joinChars_cons _ _

end Text

namespace Markdown

/-! ## Lines that begin with a fence -/

/-- The line begins with three fence characters, behind at most `margin` blanks. -/
def beginsFence : Nat → List Char → Bool
  | margin + 1, ' ' :: line => beginsFence margin line
  | _, line => (List.replicate 3 fenceChar).isPrefixOf line

/-- Some line of the text begins with a fence, behind at most three blanks. -/
def holdsFence (text : List Char) : Bool := (Text.splitLines text).any (beginsFence 3)

/-- Some line of the text below the first one begins with a fence. -/
def holdsFenceBelow (text : List Char) : Bool := (Text.splitLines text).tail.any (beginsFence 3)

@[simp] theorem holdsFence_nil : holdsFence [] = false := rfl

@[simp] theorem holdsFenceBelow_nil : holdsFenceBelow [] = false := rfl

/-- A character that ends the margin of a line, and is no fence character. -/
def isSolid (c : Char) : Bool := c != '\n' && c != ' ' && c != fenceChar

private theorem ne_of_isSolid {c d : Char} (hc : isSolid c = true) (hd : isSolid d = false) :
    c ≠ d := by
  rintro rfl
  exact absurd (hd.symm.trans hc) Bool.false_ne_true

private theorem beginsFence_of_ne {c : Char} (h : c ≠ ' ') (margin : Nat) (line : List Char) :
    beginsFence margin (c :: line) = (List.replicate 3 fenceChar).isPrefixOf (c :: line) := by
  unfold beginsFence
  split
  · next heq => exact absurd (List.head_eq_of_cons_eq heq) h
  · rfl

private theorem isPrefixOf_solid {c : Char} (h : isSolid c = true) (count : Nat)
    (front back : List Char) :
    (List.replicate count fenceChar).isPrefixOf (front ++ c :: back) =
      (List.replicate count fenceChar).isPrefixOf front := by
  have hfence : (fenceChar == c) = false :=
    beq_eq_false_iff_ne.mpr (ne_of_isSolid h (by decide)).symm
  induction count generalizing front with
  | zero => simp
  | succ count ih =>
    cases front with
    | nil =>
      change (fenceChar == c && _) = false
      rw [hfence, Bool.false_and]
    | cons d front =>
      rw [List.cons_append, List.replicate_succ, List.isPrefixOf, List.isPrefixOf, ih]

/-- What stands behind a solid character does not matter. -/
theorem beginsFence_append {c : Char} (h : isSolid c = true) (margin : Nat)
    (front back : List Char) :
    beginsFence margin (front ++ c :: back) = beginsFence margin front := by
  have hblank : c ≠ ' ' := ne_of_isSolid h (by decide)
  induction front generalizing margin with
  | nil =>
    have hprefix := isPrefixOf_solid h 3 [] back
    rw [List.nil_append] at hprefix ⊢
    rw [beginsFence_of_ne hblank, hprefix]
    cases margin <;> rfl
  | cons d front ih =>
    rw [List.cons_append]
    by_cases hd : d = ' '
    · subst hd
      cases margin with
      | zero => rfl
      | succ margin => exact ih margin
    · rw [beginsFence_of_ne hd, beginsFence_of_ne hd, ← List.cons_append, isPrefixOf_solid h]

theorem holdsFence_feed (x y : List Char) :
    holdsFence (x ++ '\n' :: y) = (holdsFence x || holdsFence y) := by
  rw [holdsFence, Text.splitLines_append_feed, List.any_append, holdsFence, holdsFence]

section Solid

variable {c : Char} (h : isSolid c = true)

include h

private theorem exists_splitLines_solid (x y : List Char) :
    ∃ lines last first rest, Text.splitLines x = lines ++ [last] ∧
      Text.splitLines y = first :: rest ∧
      Text.splitLines (x ++ c :: y) = lines ++ (last ++ c :: first) :: rest := by
  have hfeed : c ≠ '\n' := ne_of_isSolid h (by decide)
  obtain ⟨lines, last, head, tail, hx, hcy, hxy⟩ := Text.exists_splitLines_append x (c :: y)
  obtain ⟨first, rest, hy⟩ := List.exists_cons_of_ne_nil (Text.splitLines_ne_nil y)
  rw [Text.splitLines, if_neg hfeed, hy] at hcy
  obtain ⟨rfl, rfl⟩ := List.cons.inj hcy
  exact ⟨lines, last, first, rest, hx, hy, hxy⟩

theorem holdsFence_solid (x y : List Char) :
    holdsFence (x ++ c :: y) = (holdsFence x || holdsFenceBelow y) := by
  obtain ⟨lines, last, first, rest, hx, hy, hxy⟩ := exists_splitLines_solid h x y
  rw [holdsFence, holdsFence, holdsFenceBelow, hx, hy, hxy]
  simp [beginsFence_append h, Bool.or_assoc]

theorem holdsFenceBelow_solid (x y : List Char) :
    holdsFenceBelow (x ++ c :: y) = (holdsFenceBelow x || holdsFenceBelow y) := by
  obtain ⟨lines, last, first, rest, hx, hy, hxy⟩ := exists_splitLines_solid h x y
  rw [holdsFenceBelow, holdsFenceBelow, holdsFenceBelow, hx, hy, hxy]
  cases lines <;> simp [beginsFence_append h, Bool.or_assoc]

end Solid

theorem holdsFenceBelow_append {x : List Char} (h : '\n' ∉ x) (y : List Char) :
    holdsFenceBelow (x ++ y) = holdsFenceBelow y := by
  obtain ⟨first, rest, hy⟩ := List.exists_cons_of_ne_nil (Text.splitLines_ne_nil y)
  rw [holdsFenceBelow, holdsFenceBelow, Text.splitLines_append_of_notMem h hy, hy, List.tail_cons,
    List.tail_cons]

theorem holdsFenceBelow_of_notMem {x : List Char} (h : '\n' ∉ x) : holdsFenceBelow x = false := by
  rw [holdsFenceBelow, Text.splitLines_of_notMem h]
  rfl

/-- Marks on the first and on the last line of a text do not matter. -/
theorem holdsFenceBelow_between {front : List Char} (hfront : '\n' ∉ front) {c : Char}
    (hc : isSolid c = true) (text : List Char) :
    holdsFenceBelow (front ++ (text ++ [c])) = holdsFenceBelow text := by
  rw [holdsFenceBelow_append hfront, holdsFenceBelow_solid hc, holdsFenceBelow_nil, Bool.or_false]

theorem holdsFenceBelow_of_holdsFence {text : List Char} (h : holdsFence text = false) :
    holdsFenceBelow text = false := by
  obtain ⟨first, rest, htext⟩ := List.exists_cons_of_ne_nil (Text.splitLines_ne_nil text)
  rw [holdsFence, htext, List.any_cons, Bool.or_eq_false_iff] at h
  rw [holdsFenceBelow, htext, List.tail_cons, h.2]

/-- Solid characters and line feeds bring no fence about. -/
theorem holdsFence_append_of_all {x y : List Char}
    (hx : x.all (fun c ↦ isSolid c || c == '\n') = true) (hy : holdsFence y = false) :
    holdsFence (x ++ y) = false := by
  induction x with
  | nil => exact hy
  | cons c x ih =>
    rw [List.all_cons, Bool.and_eq_true, Bool.or_eq_true, beq_iff_eq] at hx
    rw [List.cons_append]
    rcases hx.1 with hsolid | rfl
    · have hrest := holdsFence_solid hsolid [] (x ++ y)
      rw [List.nil_append, holdsFence_nil, Bool.false_or] at hrest
      rw [hrest, holdsFenceBelow_of_holdsFence (ih hx.2)]
    · have hrest := holdsFence_feed [] (x ++ y)
      rw [List.nil_append, holdsFence_nil, Bool.false_or] at hrest
      rw [hrest, ih hx.2]

/-- A class of characters without line feeds, blanks and fences is one of solid characters. -/
theorem isSolid_of_class {p : Char → Bool} (hfeed : p '\n' = false) (hblank : p ' ' = false)
    (hfence : p fenceChar = false) {c : Char} (h : p c = true) : isSolid c = true := by
  have hother : ∀ d, p d = false → c ≠ d := by
    rintro d hd rfl
    exact absurd (hd.symm.trans h) Bool.false_ne_true
  rw [isSolid, Bool.and_eq_true, Bool.and_eq_true, bne_iff_ne, bne_iff_ne, bne_iff_ne]
  exact ⟨⟨hother _ hfeed, hother _ hblank⟩, hother _ hfence⟩

theorem holdsFence_join (parts : List String) :
    holdsFence (Text.join "\n" parts).toList = parts.any fun part ↦ holdsFence part.toList := by
  induction parts with
  | nil => rfl
  | cons part rest ih =>
    cases rest with
    | nil =>
      rw [Text.join_singleton]
      simp
    | cons other rest =>
      have htext : (Text.join "\n" (part :: other :: rest)).toList =
          part.toList ++ '\n' :: (Text.join "\n" (other :: rest)).toList := by
        simp [Text.join, Text.joinChars]
      rw [htext, holdsFence_feed, ih]
      rfl

/-! ## Codes that keep margins -/

/-- A way to write characters that leaves margins and fences as they are. -/
structure KeepsMargins (code : Char → List Char) : Prop where
  keeps : ∀ c, isSolid c = false → code c = [c]
  solid : ∀ c, isSolid c = true → code c ≠ [] ∧ ∀ d ∈ code c, isSolid d = true

namespace KeepsMargins

variable {code : Char → List Char} (h : KeepsMargins code)

include h

private theorem isPrefixOf_flatMap (count : Nat) (line : List Char) :
    (List.replicate count fenceChar).isPrefixOf (line.flatMap code) =
      (List.replicate count fenceChar).isPrefixOf line := by
  induction count generalizing line with
  | zero => simp
  | succ count ih =>
    cases line with
    | nil => rfl
    | cons c line =>
      rw [List.flatMap_cons]
      by_cases hc : isSolid c = true
      · obtain ⟨hne, hsolid⟩ := h.solid c hc
        obtain ⟨d, word, hword⟩ := List.exists_cons_of_ne_nil hne
        have hd : isSolid d = true := hsolid d (by simp [hword])
        rw [hword, List.cons_append]
        exact (isPrefixOf_solid hd (count + 1) [] _).trans
          (isPrefixOf_solid hc (count + 1) [] line).symm
      · rw [h.keeps c (Bool.eq_false_iff.mpr hc), List.singleton_append, List.replicate_succ,
          List.isPrefixOf, List.isPrefixOf, ih]

private theorem exists_cons {c : Char} (hc : c ≠ ' ') : ∃ d more, code c = d :: more ∧ d ≠ ' ' := by
  by_cases hsolid : isSolid c = true
  · obtain ⟨hne, hall⟩ := h.solid c hsolid
    obtain ⟨d, more, hcode⟩ := List.exists_cons_of_ne_nil hne
    exact ⟨d, more, hcode, ne_of_isSolid (hall d (by simp [hcode])) (by decide)⟩
  · exact ⟨c, [], h.keeps c (Bool.eq_false_iff.mpr hsolid), hc⟩

private theorem beginsFence_flatMap (margin : Nat) (line : List Char) :
    beginsFence margin (line.flatMap code) = beginsFence margin line := by
  induction line generalizing margin with
  | nil => rfl
  | cons c line ih =>
    by_cases hblank : c = ' '
    · subst hblank
      rw [List.flatMap_cons, h.keeps ' ' (by decide), List.singleton_append]
      cases margin with
      | zero =>
        have hprefix := h.isPrefixOf_flatMap 3 (' ' :: line)
        rw [List.flatMap_cons, h.keeps ' ' (by decide), List.singleton_append] at hprefix
        exact hprefix
      | succ margin => exact ih margin
    · obtain ⟨d, more, hcode, hd⟩ := h.exists_cons hblank
      rw [beginsFence_of_ne hblank, ← h.isPrefixOf_flatMap, List.flatMap_cons, hcode,
        List.cons_append, beginsFence_of_ne hd]

private theorem feed_notMem {c : Char} (hc : c ≠ '\n') : '\n' ∉ code c := by
  by_cases hsolid : isSolid c = true
  · intro hmem
    exact absurd ((h.solid c hsolid).2 _ hmem) (by decide)
  · rw [h.keeps c (Bool.eq_false_iff.mpr hsolid), List.mem_singleton]
    exact hc.symm

private theorem splitLines_flatMap (text : List Char) :
    Text.splitLines (text.flatMap code) =
      (Text.splitLines text).map fun line ↦ line.flatMap code := by
  induction text with
  | nil => rfl
  | cons c text ih =>
    rw [List.flatMap_cons, Text.splitLines]
    by_cases hc : c = '\n'
    · rw [if_pos hc, hc, h.keeps '\n' (by decide), List.singleton_append, Text.splitLines,
        if_pos rfl, ih]
      rfl
    · obtain ⟨first, rest, htext⟩ := List.exists_cons_of_ne_nil (Text.splitLines_ne_nil text)
      rw [htext] at ih
      rw [if_neg hc, htext, Text.splitLines_append_of_notMem (h.feed_notMem hc) ih]
      rfl

theorem holdsFenceBelow_flatMap (text : List Char) :
    holdsFenceBelow (text.flatMap code) = holdsFenceBelow text := by
  rw [holdsFenceBelow, holdsFenceBelow, h.splitLines_flatMap, ← List.map_tail, List.any_map,
    Function.comp_def]
  simp only [h.beginsFence_flatMap]

end KeepsMargins

theorem keepsMargins_quotedChar : KeepsMargins quotedChar where
  keeps c hc := by
    have hescape : c ≠ '\\' := by rintro rfl; exact absurd hc (by decide)
    have hquote : c ≠ '"' := by rintro rfl; exact absurd hc (by decide)
    rw [quotedChar, if_neg hescape, if_neg hquote]
  solid c hc := by
    rw [quotedChar]
    split
    · exact ⟨List.cons_ne_nil _ _, List.all_eq_true.mp rfl⟩
    split
    · exact ⟨List.cons_ne_nil _ _, List.all_eq_true.mp rfl⟩
    · simpa using hc

theorem keepsMargins_shellQuoteChar : KeepsMargins shellQuoteChar where
  keeps c hc := by
    have hquote : c ≠ '\'' := by rintro rfl; exact absurd hc (by decide)
    rw [shellQuoteChar, if_neg hquote]
  solid c hc := by
    rw [shellQuoteChar]
    split
    · exact ⟨List.cons_ne_nil _ _, List.all_eq_true.mp rfl⟩
    · simpa using hc

/-! ## Fenced blocks -/

/-- The text begins with a block between fences of three characters. -/
def IsFenced (text body : String) : Prop :=
  ∃ info rest, text = "```" ++ info ++ "\n" ++ body ++ "\n```" ++ rest ∧ '\n' ∉ info.toList ∧
    ∀ c ∈ rest.toList.head?, c = '\n'

/-- The line ends a fenced block: a fence with nothing but blanks behind it. -/
def endsFence (line : List Char) : Bool :=
  beginsFence 3 line &&
    ((line.dropWhile (· == ' ')).dropWhile (· == fenceChar)).all fun c ↦ c == ' ' || c == '\t'

/-- The lines that a reader finds in the fenced block at the top of the text. -/
def fencedLines (text : List Char) : List (List Char) :=
  (Text.splitLines text).tail.takeWhile fun line ↦ !endsFence line

/-- A body without fences is read as a whole. -/
theorem IsFenced.fencedLines_eq {text body : String} (h : IsFenced text body)
    (hbody : holdsFence body.toList = false) :
    fencedLines text.toList = Text.splitLines body.toList := by
  obtain ⟨info, rest, rfl, hinfo, hrest⟩ := h
  have hfront : '\n' ∉ "```".toList ++ info.toList := by simp [hinfo]
  have hclosing : ∃ more, Text.splitLines ("```".toList ++ rest.toList) = "```".toList :: more := by
    cases hlist : rest.toList with
    | nil => exact ⟨[], rfl⟩
    | cons c more =>
      rw [hlist] at hrest
      rw [hrest c rfl, Text.splitLines_append_feed]
      exact ⟨_, rfl⟩
  obtain ⟨more, hclosing⟩ := hclosing
  have htext : ("```" ++ info ++ "\n" ++ body ++ "\n```" ++ rest).toList =
      ("```".toList ++ info.toList) ++ '\n' ::
        (body.toList ++ '\n' :: ("```".toList ++ rest.toList)) := by
    simp
  have hlines : ∀ line ∈ Text.splitLines body.toList, (!endsFence line) = true := by
    intro line hline
    rw [holdsFence, List.any_eq_false] at hbody
    rw [endsFence, Bool.eq_false_iff.mpr (hbody line hline)]
    rfl
  rw [fencedLines, htext, Text.splitLines_append_feed, Text.splitLines_of_notMem hfront,
    Text.splitLines_append_feed, hclosing, List.singleton_append, List.tail_cons,
    List.takeWhile_append_of_pos hlines, List.takeWhile_cons_of_neg (by decide), List.append_nil]

end Markdown

end Runbook
