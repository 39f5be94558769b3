/-!
# Looking for a pattern in a text

A text is cut at an occurrence of a pattern, the first or the last one. The pattern itself is not
part of either piece, so `before ++ pattern ++ after` is the text again. Occurrences are replaced
from left to right, and what has been put in their place is not looked at again.
-/

namespace Runbook.Text

/-- What follows `pattern` at the start of the text, if it stands there. -/
def stripStart? : List Char → List Char → Option (List Char)
  | [], text => some text
  | _ :: _, [] => none
  | p :: pattern, c :: text => if p = c then stripStart? pattern text else none

/-- The pieces before and after the first occurrence of `pattern`. -/
def splitFirst? (pattern : List Char) : List Char → Option (List Char × List Char)
  | [] => (stripStart? pattern []).map fun rest ↦ ([], rest)
  | c :: text =>
    match stripStart? pattern (c :: text) with
    | some rest => some ([], rest)
    | none => (splitFirst? pattern text).map fun pieces ↦ (c :: pieces.1, pieces.2)

/-- The pieces before and after the last occurrence of `pattern`. -/
def splitLast? (pattern : List Char) : List Char → Option (List Char × List Char)
  | [] => (stripStart? pattern []).map fun rest ↦ ([], rest)
  | c :: text =>
    match splitLast? pattern text with
    | some pieces => some (c :: pieces.1, pieces.2)
    | none => (stripStart? pattern (c :: text)).map fun rest ↦ ([], rest)

def startsWith (pattern text : String) : Bool := (stripStart? pattern.toList text.toList).isSome

/-- `text` up to the first occurrence of `pattern`, or the whole of it. -/
def beforeFirst (pattern text : String) : String :=
  match splitFirst? pattern.toList text.toList with
  | some pieces => String.ofList pieces.1
  | none => text

/-- `text` after the last occurrence of `pattern`, or the whole of it. -/
def afterLast (pattern text : String) : String :=
  match splitLast? pattern.toList text.toList with
  | some pieces => String.ofList pieces.2
  | none => text

/-- `text` with its first occurrence of `pattern`, if any, replaced. -/
def replaceFirst (pattern replacement : List Char) (text : List Char) : List Char :=
  match splitFirst? pattern text with
  | some pieces => pieces.1 ++ replacement ++ pieces.2
  | none => text

/-- `text` with the occurrences of `pattern` replaced from left to right. The first `skip`
characters belong to an occurrence that has been replaced. -/
def replaceFrom (pattern replacement : List Char) : Nat → List Char → List Char
  | _, [] => []
  | skip + 1, _ :: text => replaceFrom pattern replacement skip text
  | 0, c :: text =>
    if pattern.isPrefixOf (c :: text) then
      replacement ++ replaceFrom pattern replacement (pattern.length - 1) text
    else c :: replaceFrom pattern replacement 0 text

/-- `text` with every occurrence of `pattern`, which is not empty, replaced. -/
def replaceAll (pattern replacement : String) (text : List Char) : List Char :=
  replaceFrom pattern.toList replacement.toList 0 text

theorem eq_append_of_stripStart? {pattern text rest : List Char}
    (h : stripStart? pattern text = some rest) : text = pattern ++ rest := by
  induction pattern generalizing text with
  | nil => simpa [stripStart?] using h
  | cons p pattern ih =>
    cases text with
    | nil => simp [stripStart?] at h
    | cons c text =>
      rw [stripStart?] at h
      split at h
      · subst p
        simp [ih h]
      · simp at h

@[simp]
theorem stripStart?_append (pattern rest : List Char) :
    stripStart? pattern (pattern ++ rest) = some rest := by
  induction pattern with
  | nil => rfl
  | cons p pattern ih => simp [stripStart?, ih]

/-- The pieces and the pattern between them are the text. -/
theorem eq_append_of_splitFirst? {pattern text before after : List Char}
    (h : splitFirst? pattern text = some (before, after)) : text = before ++ pattern ++ after := by
  induction text generalizing before with
  | nil =>
    obtain ⟨rest, hrest, heq⟩ := Option.map_eq_some_iff.mp h
    cases heq
    exact eq_append_of_stripStart? hrest
  | cons c text ih =>
    rw [splitFirst?] at h
    split at h
    · next hstart =>
      cases h
      exact eq_append_of_stripStart? hstart
    · obtain ⟨pieces, hpieces, heq⟩ := Option.map_eq_some_iff.mp h
      cases heq
      rw [ih hpieces]
      rfl

end Runbook.Text
