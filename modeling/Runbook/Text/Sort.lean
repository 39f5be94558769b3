/-!
# Sorted texts

Texts in the order of their code points.
-/

namespace Runbook.Text

/-- Puts a text in front of the first one that it does not follow. -/
def insertSorted (text : String) : List String → List String
  | [] => [text]
  | other :: rest => if text ≤ other then text :: other :: rest else other :: insertSorted text rest

/-- The texts in ascending order. -/
def sort (texts : List String) : List String := texts.foldr insertSorted []

/-- The texts without those that came before. -/
def distinct (texts : List String) : List String :=
  texts.foldl (fun seen text ↦ if seen.contains text then seen else seen ++ [text]) []

private theorem mem_insertSorted {a text : String} {texts : List String} :
    a ∈ insertSorted text texts ↔ a = text ∨ a ∈ texts := by
  induction texts with
  | nil => simp [insertSorted]
  | cons other rest ih =>
    rw [insertSorted]
    split
    · simp
    · simp only [List.mem_cons, ih]
      constructor
      · rintro (h | h | h)
        · exact .inr (.inl h)
        · exact .inl h
        · exact .inr (.inr h)
      · rintro (h | h | h)
        · exact .inr (.inl h)
        · exact .inl h
        · exact .inr (.inr h)

/-- Sorting keeps the members. -/
theorem mem_sort {a : String} {texts : List String} : a ∈ sort texts ↔ a ∈ texts := by
  induction texts with
  | nil => simp [sort]
  | cons text rest ih =>
    rw [sort, List.foldr_cons, mem_insertSorted, List.mem_cons]
    exact or_congr Iff.rfl ih

/-- Each text is kept once. -/
theorem mem_distinct {a : String} {texts : List String} : a ∈ distinct texts ↔ a ∈ texts := by
  have hseen : ∀ seen : List String,
      a ∈ texts.foldl (fun seen text ↦ if seen.contains text then seen else seen ++ [text]) seen ↔
        a ∈ seen ∨ a ∈ texts := by
    induction texts with
    | nil => simp
    | cons text rest ih =>
      intro seen
      rw [List.foldl_cons, ih]
      split
      · next hmem =>
        rw [List.contains_iff_mem] at hmem
        constructor
        · rintro (h | h)
          · exact .inl h
          · exact .inr (List.mem_cons_of_mem _ h)
        · rintro (h | h)
          · exact .inl h
          · rcases List.mem_cons.mp h with rfl | h
            · exact .inl hmem
            · exact .inr h
      · simp [or_assoc]
  simpa [distinct] using hseen []

end Runbook.Text
