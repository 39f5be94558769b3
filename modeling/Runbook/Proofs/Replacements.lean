import Runbook.Markdown.Escape
import Runbook.Proofs.Skeleton

/-!
# Replacements

Escapes are made by replacements, one after the other. In a text of words a replacement changes the
words that are its pattern, if the pattern begins in no other word (`replaceFrom_flatMap`). A
pattern of one character always has this property, so a chain of such replacements is one pass over
the characters (`escapeQuotes_eq`, `escapeAttribute_eq`). The escapes of a cell take two characters
in one of their steps, and the pass looks one character ahead (`escapeCell_eq`).
-/

namespace Runbook

namespace Text

section Replacing

variable {pattern replacement : List Char}

private theorem replaceFrom_length (occurrence text : List Char) :
    replaceFrom pattern replacement occurrence.length (occurrence ++ text) =
      replaceFrom pattern replacement 0 text := by
  induction occurrence with
  | nil => rfl
  | cons c occurrence ih => rw [List.length_cons, List.cons_append, replaceFrom, ih]

private theorem replaceFrom_self (hpattern : pattern ≠ []) (text : List Char) :
    replaceFrom pattern replacement 0 (pattern ++ text) =
      replacement ++ replaceFrom pattern replacement 0 text := by
  obtain ⟨c, rest, rfl⟩ := List.exists_cons_of_ne_nil hpattern
  have hprefix : (c :: rest).isPrefixOf (c :: (rest ++ text)) = true :=
    List.isPrefixOf_iff_prefix.mpr (List.prefix_append (c :: rest) text)
  rw [List.cons_append, replaceFrom, if_pos hprefix, List.length_cons, Nat.add_sub_cancel,
    replaceFrom_length]

theorem Clear.replaceFrom {front text : List Char} (h : Clear pattern front text) :
    replaceFrom pattern replacement 0 (front ++ text) =
      front ++ Text.replaceFrom pattern replacement 0 text := by
  induction front with
  | nil => rfl
  | cons c front ih =>
    have hprefix : ¬pattern.isPrefixOf (c :: (front ++ text)) = true := by
      rw [List.isPrefixOf_iff_prefix]
      exact h.1
    rw [List.cons_append, Text.replaceFrom, if_neg hprefix, ih h.2, List.cons_append]

/-- A replacement in a text of words: the words that are the pattern change, and in the others the
pattern does not begin. -/
theorem replaceFrom_flatMap (hpattern : pattern ≠ []) {code changed : Char → List Char}
    (hcode : ∀ c, code c = pattern ∧ changed c = replacement ∨
      changed c = code c ∧ ∀ x, Clear pattern (code c) x) (text : List Char) :
    replaceFrom pattern replacement 0 (text.flatMap code) = text.flatMap changed := by
  induction text with
  | nil => rfl
  | cons c text ih =>
    rw [List.flatMap_cons, List.flatMap_cons]
    rcases hcode c with ⟨hword, hchanged⟩ | ⟨hchanged, hclear⟩
    · rw [hword, hchanged, replaceFrom_self hpattern, ih]
    · rw [(hclear _).replaceFrom, hchanged, ih]

end Replacing

theorem clear_singleton {pattern : List Char} {c p : Char} {rest : List Char}
    (hpattern : pattern = p :: rest) (hc : c ≠ p) (text : List Char) : Clear pattern [c] text := by
  refine ⟨?_, trivial⟩
  rw [hpattern, List.cons_prefix_cons]
  exact fun h ↦ hc h.1.symm

theorem clear_of_head_notMem {p : Char} {front : List Char} (h : p ∉ front) (text : List Char) :
    Clear [p] front text := by
  induction front with
  | nil => trivial
  | cons c front ih =>
    rw [List.mem_cons, not_or] at h
    exact ⟨(clear_singleton rfl (Ne.symm h.1) (front ++ text)).1, ih h.2⟩

private theorem replaceFrom_singleton (p : Char) (replacement text : List Char) :
    replaceFrom [p] replacement 0 text =
      text.flatMap fun c ↦ if c = p then replacement else [c] := by
  have hcode : ∀ c : Char, [c] = [p] ∧ (if c = p then replacement else [c]) = replacement ∨
      (if c = p then replacement else [c]) = [c] ∧ ∀ x, Clear [p] [c] x := by
    intro c
    by_cases hc : c = p
    · exact .inl ⟨by rw [hc], if_pos hc⟩
    · exact .inr ⟨if_neg hc, clear_singleton rfl hc⟩
  have hwords := replaceFrom_flatMap (List.cons_ne_nil p []) hcode text
  rwa [List.flatMap_singleton'] at hwords

/-- Two replacements are one pass, if the first puts in nothing that the second would change. -/
theorem replaceFrom_replaceFrom {p q : Char} {first second : List Char} (h : q ∉ first)
    (text : List Char) :
    replaceFrom [q] second 0 (replaceFrom [p] first 0 text) =
      text.flatMap fun c ↦ if c = p then first else if c = q then second else [c] := by
  have hfirst : (first.flatMap fun c ↦ if c = q then second else [c]) = first := by
    have hsame : ∀ c ∈ first, (if c = q then second else [c]) = [c] := by
      intro c hc
      exact if_neg fun heq : c = q ↦ h (heq ▸ hc)
    rw [List.flatMap_congr hsame, List.flatMap_singleton']
  rw [replaceFrom_singleton, replaceFrom_singleton, List.flatMap_assoc]
  refine List.flatMap_congr fun c _ ↦ ?_
  split
  · exact hfirst
  · simp

end Text

namespace Markdown

/-! ## Quotes and attributes -/

/-- A character between double quotes. -/
def quotedChar (c : Char) : List Char :=
  if c = '\\' then ['\\', '\\'] else if c = '"' then ['\\', '"'] else [c]

theorem escapeQuotes_eq (text : String) :
    escapeQuotes text = String.ofList (text.toList.flatMap quotedChar) :=
  congrArg String.ofList (Text.replaceFrom_replaceFrom (by decide) text.toList)

def attributeChar (c : Char) : List Char :=
  if c = '&' then "&amp;".toList else if c = '"' then "&quot;".toList else [c]

theorem escapeAttribute_eq (text : String) :
    escapeAttribute text = String.ofList (text.toList.flatMap attributeChar) :=
  congrArg String.ofList (Text.replaceFrom_replaceFrom (by decide) text.toList)

/-! ## Cells -/

/-- Characters of a cell: a pipe is escaped and a line end becomes a blank. -/
def cellChars : List Char → List Char
  | [] => []
  | '\r' :: '\n' :: rest => ' ' :: cellChars rest
  | c :: rest =>
    if c = '|' then '\\' :: '|' :: cellChars rest
    else if c = '\n' then ' ' :: cellChars rest
    else c :: cellChars rest

/-- A character with only pipes escaped. -/
def pipeChar (c : Char) : List Char := if c = '|' then ['\\', '|'] else [c]

/-- Escaping pipes puts no line feed at the start of a text. -/
theorem flatMap_pipeChar_ne {text : List Char} (h : ∀ rest, text ≠ '\n' :: rest)
    (rest : List Char) : text.flatMap pipeChar ≠ '\n' :: rest := by
  cases text with
  | nil => exact List.cons_ne_nil _ _ ∘ Eq.symm
  | cons c text =>
    intro heq
    rw [List.flatMap_cons, pipeChar] at heq
    split at heq
    · exact absurd (List.cons.inj heq).1 (by decide)
    · exact h text (by rw [(List.cons.inj heq).1])

private theorem replaceFrom_eq_cellChars (text : List Char) :
    Text.replaceFrom ['\n'] [' '] 0 (Text.replaceFrom ['\r', '\n'] [' '] 0
      (text.flatMap pipeChar)) = cellChars text := by
  fun_induction cellChars text with
  | case1 => rfl
  | case2 rest ih =>
    rw [← ih]
    simp [pipeChar, Text.replaceFrom]
  | case3 rest _ ih =>
    rw [← ih]
    simp [pipeChar, Text.replaceFrom]
  | case4 rest _ _ ih =>
    rw [← ih]
    simp [pipeChar, Text.replaceFrom]
  | case5 c rest hends hpipe hfeed ih =>
    have hclear : ¬['\r', '\n'].isPrefixOf (c :: rest.flatMap pipeChar) = true := by
      rw [List.isPrefixOf_iff_prefix, List.cons_prefix_cons]
      rintro ⟨rfl, more, hmore⟩
      exact flatMap_pipeChar_ne (fun tail htail ↦ hends tail rfl htail) _ hmore.symm
    rw [← ih, List.flatMap_cons, pipeChar, if_neg hpipe, List.singleton_append, Text.replaceFrom,
      if_neg hclear]
    simp [Text.replaceFrom, Ne.symm hfeed]

theorem escapeCell_eq (text : String) :
    escapeCell text = String.ofList (cellChars text.toList) := by
  have hpipes : Text.replaceAll "|" "\\|" text.toList = text.toList.flatMap pipeChar :=
    Text.replaceFrom_singleton _ _ _
  rw [escapeCell, hpipes]
  exact congrArg String.ofList (replaceFrom_eq_cellChars text.toList)

end Markdown

end Runbook
