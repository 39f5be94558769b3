import Runbook.Proofs.Replacements

/-!
# Reading quoted texts

Texts between double quotes are written by two conventions: with backslashes, or with entities. Here
are the readers. A quoted text is read from its opening quote on: first to the quote that closes it,
and then the escapes are undone. The entities are undone by two replacements, one after the other,
as they were made.

A page of text holds several quoted texts with other text between them (`weave`). Each of them is
read back at its place (`readFields_weave`). A reader that knows nothing of the page finds them as
well, as long as no quote stands between them (`prefix_quotations_weave`).
-/

namespace Runbook

namespace Text

/-- A search for a character stops at its first occurrence. -/
theorem splitFirst?_of_notMem {p : Char} {front : List Char} (h : p ∉ front) (rest : List Char) :
    splitFirst? [p] (front ++ p :: rest) = some (front, rest) :=
  (clear_of_head_notMem h ([p] ++ rest)).splitFirst?_self (List.cons_ne_nil p [])

end Text

namespace Markdown

/-! ## Backslashes -/

/-- The characters up to the next double quote without an active backslash in front of it, and what
follows that quote. A backslash is active unless one that is active stands in front of it; `active`
says that one comes just before. -/
def untilQuote (active : Bool) : List Char → Option (List Char × List Char)
  | [] => none
  | c :: rest =>
    if c = '"' ∧ active = false then some ([], rest)
    else (untilQuote (c == '\\' && !active) rest).map fun found ↦ (c :: found.1, found.2)

/-- A text without its active backslashes. -/
def undoBackslashes (active : Bool) : List Char → List Char
  | [] => []
  | c :: rest =>
    if c = '\\' ∧ active = false then undoBackslashes true rest
    else c :: undoBackslashes false rest

private theorem untilQuote_flatMap (text rest : List Char) :
    untilQuote false (text.flatMap quotedChar ++ '"' :: rest) =
      some (text.flatMap quotedChar, rest) := by
  induction text with
  | nil => simp [untilQuote]
  | cons c text ih =>
    rw [List.flatMap_cons, List.append_assoc, quotedChar]
    split
    · simp [untilQuote, ih]
    split
    · simp [untilQuote, ih]
    · next hescape hquote =>
      have hactive : (c == '\\') = false := beq_eq_false_iff_ne.mpr hescape
      simp [untilQuote, ih, hactive, hquote]

private theorem undoBackslashes_flatMap (text : List Char) :
    undoBackslashes false (text.flatMap quotedChar) = text := by
  induction text with
  | nil => rfl
  | cons c text ih =>
    rw [List.flatMap_cons, quotedChar]
    split
    · next hescape => simp [undoBackslashes, ih, hescape]
    split
    · next hquote => simp [undoBackslashes, ih, hquote]
    · next hescape _ => simp [undoBackslashes, ih, hescape]

private theorem length_of_untilQuote {active : Bool} {text raw rest : List Char}
    (h : untilQuote active text = some (raw, rest)) : rest.length < text.length := by
  induction text generalizing active raw with
  | nil => cases h
  | cons c text ih =>
    rw [untilQuote] at h
    split at h
    · cases h
      exact Nat.lt_succ_self _
    · obtain ⟨found, hfound, heq⟩ := Option.map_eq_some_iff.mp h
      cases heq
      exact Nat.lt_trans (ih hfound) (Nat.lt_succ_self _)

/-! ## Entities -/

/-- A text with the entity of the quote undone, and then that of the ampersand. -/
def undoEntities (text : List Char) : List Char :=
  Text.replaceAll "&amp;" "&" (Text.replaceAll "&quot;" "\"" text)

/-- A character with only the entity of the ampersand. -/
def ampersandChar (c : Char) : List Char := if c = '&' then "&amp;".toList else [c]

private theorem replaceAll_quot (text : List Char) :
    Text.replaceAll "&quot;" "\"" (text.flatMap attributeChar) = text.flatMap ampersandChar := by
  refine Text.replaceFrom_flatMap (by decide) (fun c ↦ ?_) text
  rw [attributeChar, ampersandChar]
  split
  · next hc =>
    -- The entity of the ampersand begins like that of the quote, and goes on otherwise.
    right
    refine ⟨rfl, fun x ↦ ?_⟩
    simp [Text.Clear, List.cons_prefix_cons]
  split
  · next hc => exact .inl ⟨rfl, by rw [hc]; rfl⟩
  · next hamp _ => exact .inr ⟨rfl, Text.clear_singleton rfl hamp⟩

private theorem replaceAll_amp (text : List Char) :
    Text.replaceAll "&amp;" "&" (text.flatMap ampersandChar) = text := by
  have hcode : ∀ c, ampersandChar c = "&amp;".toList ∧ [c] = "&".toList ∨
      [c] = ampersandChar c ∧ ∀ x, Text.Clear "&amp;".toList (ampersandChar c) x := by
    intro c
    rw [ampersandChar]
    split
    · next hc => exact .inl ⟨rfl, by rw [hc]; rfl⟩
    · next hc => exact .inr ⟨rfl, Text.clear_singleton rfl hc⟩
  rw [Text.replaceAll, Text.replaceFrom_flatMap (by decide) hcode, List.flatMap_singleton']

private theorem undoEntities_flatMap (text : List Char) :
    undoEntities (text.flatMap attributeChar) = text := by
  rw [undoEntities, replaceAll_quot, replaceAll_amp]

private theorem quote_notMem_attributeChars (text : List Char) :
    '"' ∉ text.flatMap attributeChar := by
  intro h
  obtain ⟨c, -, hc⟩ := List.mem_flatMap.mp h
  rw [attributeChar] at hc
  split at hc
  · exact absurd hc (by decide)
  split at hc
  · exact absurd hc (by decide)
  · next hquote => exact hquote (List.mem_singleton.mp hc).symm

/-! ## Conventions -/

/-- How a text between double quotes is written. -/
inductive Quoting where
  | backslashes
  | entities
deriving DecidableEq, Repr

namespace Quoting

/-- How a character is written. -/
def code : Quoting → Char → List Char
  | .backslashes => quotedChar
  | .entities => attributeChar

/-- The text behind an opening quote, and what follows its closing quote. -/
def read? : Quoting → List Char → Option (List Char × List Char)
  | .backslashes, text =>
    (untilQuote false text).map fun found ↦ (undoBackslashes false found.1, found.2)
  | .entities, text =>
    (Text.splitFirst? ['"'] text).map fun found ↦ (undoEntities found.1, found.2)

/-- What is written between quotes is read back, whatever follows. -/
theorem read?_flatMap (quoting : Quoting) (text rest : List Char) :
    quoting.read? (text.flatMap quoting.code ++ '"' :: rest) = some (text, rest) := by
  cases quoting with
  | backslashes =>
    rw [read?, code, untilQuote_flatMap, Option.map_some, undoBackslashes_flatMap]
  | entities =>
    rw [read?, code, Text.splitFirst?_of_notMem (quote_notMem_attributeChars text),
      Option.map_some, undoEntities_flatMap]

private theorem length_of_splitFirst? {text before after : List Char}
    (h : Text.splitFirst? ['"'] text = some (before, after)) : after.length < text.length := by
  rw [Text.eq_append_of_splitFirst? h]
  simp only [List.length_append, List.length_singleton]
  omega

private theorem length_of_read? {quoting : Quoting} {text found rest : List Char}
    (h : quoting.read? text = some (found, rest)) : rest.length < text.length := by
  cases quoting with
  | backslashes =>
    obtain ⟨⟨raw, after⟩, hraw, heq⟩ := Option.map_eq_some_iff.mp h
    cases heq
    exact length_of_untilQuote hraw
  | entities =>
    obtain ⟨⟨raw, after⟩, hraw, heq⟩ := Option.map_eq_some_iff.mp h
    cases heq
    exact length_of_splitFirst? hraw

end Quoting

/-! ## Pages of quoted texts -/

/-- A quoted text, and what stands between the one before it and its opening quote. -/
structure Quotation where
  lead : String
  text : String
deriving DecidableEq, Repr, Inhabited

namespace Quoting

variable (quoting : Quoting)

/-- Quoted texts one after another, each behind its lead, and `tail` behind the last. -/
def weave : List Quotation → List Char → List Char
  | [], tail => tail
  | quotation :: rest, tail =>
    quotation.lead.toList ++
      '"' :: (quotation.text.toList.flatMap quoting.code ++ '"' :: weave rest tail)

/-- Reads a quoted text behind each of the leads, one after the other. -/
def readFields : List String → List Char → Option (List String × List Char)
  | [], text => some ([], text)
  | lead :: leads, text => do
    let rest ← Text.stripStart? (lead.toList ++ ['"']) text
    let (found, after) ← quoting.read? rest
    let (others, tail) ← readFields leads after
    return (String.ofList found :: others, tail)

/-- The quoted texts that a reader finds who knows no leads. -/
def quotations (text : List Char) : List Quotation :=
  match _hquote : Text.splitFirst? ['"'] text with
  | none => []
  | some (lead, rest) =>
    match _hfound : quoting.read? rest with
    | none => []
    | some (found, after) =>
      ⟨String.ofList lead, String.ofList found⟩ :: quotations after
termination_by text.length
decreasing_by exact Nat.lt_trans (length_of_read? _hfound) (length_of_splitFirst? _hquote)

theorem readFields_weave (fields : List Quotation) (tail : List Char) :
    quoting.readFields (fields.map Quotation.lead) (quoting.weave fields tail) =
      some (fields.map Quotation.text, tail) := by
  induction fields with
  | nil => rfl
  | cons field rest ih =>
    have hlead : field.lead.toList ++ '"' :: (field.text.toList.flatMap quoting.code ++
        '"' :: quoting.weave rest tail) = (field.lead.toList ++ ['"']) ++
          (field.text.toList.flatMap quoting.code ++ '"' :: quoting.weave rest tail) := by
      simp
    rw [List.map_cons, readFields, weave, hlead, Text.stripStart?_append]
    simp [read?_flatMap, ih]

variable {quoting} in
theorem quotations_cons {text lead rest found after : List Char}
    (hlead : Text.splitFirst? ['"'] text = some (lead, rest))
    (hfound : quoting.read? rest = some (found, after)) :
    quoting.quotations text =
      ⟨String.ofList lead, String.ofList found⟩ :: quoting.quotations after := by
  rw [quotations]
  split
  · next h => rw [hlead] at h; cases h
  · next h =>
    rw [hlead] at h
    cases h
    split
    · next h => rw [hfound] at h; cases h
    · next h =>
      rw [hfound] at h
      cases h
      rfl

theorem prefix_quotations_weave {fields : List Quotation}
    (hfields : ∀ field ∈ fields, '"' ∉ field.lead.toList) (tail : List Char) :
    fields <+: quoting.quotations (quoting.weave fields tail) := by
  induction fields with
  | nil => exact List.nil_prefix
  | cons field rest ih =>
    obtain ⟨hfield, hrest⟩ := List.forall_mem_cons.mp hfields
    have hsplit := Text.splitFirst?_of_notMem hfield
      (field.text.toList.flatMap quoting.code ++ '"' :: quoting.weave rest tail)
    have hread := quoting.read?_flatMap field.text.toList (quoting.weave rest tail)
    rw [weave, quotations_cons hsplit hread, String.ofList_toList, String.ofList_toList]
    exact List.cons_prefix_cons.mpr ⟨rfl, ih hrest⟩

theorem weave_append (front back : List Quotation) (tail : List Char) :
    quoting.weave (front ++ back) tail = quoting.weave front (quoting.weave back tail) := by
  induction front with
  | nil => rfl
  | cons field rest ih => rw [List.cons_append, weave, weave, ih]

/-- A reader who knows no leads finds the quoted texts up to the first lead with a quote in it. -/
theorem takeWhile_prefix_quotations (fields : List Quotation) (tail : List Char) :
    fields.takeWhile (fun field ↦ '"' ∉ field.lead.toList) <+:
      quoting.quotations (quoting.weave fields tail) := by
  have hplain : ∀ field ∈ fields.takeWhile (fun field ↦ '"' ∉ field.lead.toList),
      '"' ∉ field.lead.toList := fun field hfield ↦
    of_decide_eq_true (List.all_eq_true.mp List.all_takeWhile field hfield)
  have hread := quoting.prefix_quotations_weave hplain
    (quoting.weave (fields.dropWhile (fun field ↦ '"' ∉ field.lead.toList)) tail)
  rwa [← weave_append, List.takeWhile_append_dropWhile] at hread

end Quoting

end Markdown

end Runbook
