import Runbook.Staged.Query

/-!
# Escapes are prefix codes

Inside a JSON string and between single quotes of the shell a character is written as a word of
several characters, and the words follow each other without anything between them. Such a text can
be read back because the words form a prefix code: what stands at the start of a text is the word of
at most one character, whatever follows (`IsPrefixCode`).

For each escape there is a reader of the first word. That it gives the character back needs one case
for each form of a word, whereas a comparison of two words would need one for each pair of forms.
-/

namespace Runbook

namespace Text

/-! ## Prefix codes -/

/-- The word at the start of a text belongs to one character only. -/
def IsPrefixCode (code : Char → List Char) : Prop :=
  ∀ ⦃c d : Char⦄ ⦃x y : List Char⦄, code c ++ x = code d ++ y → c = d ∧ x = y

variable {code : Char → List Char}

/-- A code whose first word is read back, as a character or as something made of it. -/
theorem IsPrefixCode.of_read {α : Type} {f : Char → α} (hf : Function.Injective f)
    {read : List Char → Option (α × List Char)}
    (h : ∀ c x, read (code c ++ x) = some (f c, x)) : IsPrefixCode code := by
  intro c d x y heq
  have hread : some (f c, x) = some (f d, y) := by rw [← h c x, ← h d y, heq]
  obtain ⟨hpoint, hrest⟩ := Prod.mk.inj (Option.some.inj hread)
  exact ⟨hf hpoint, hrest⟩

/-- Two texts of words that are followed by something no word begins with are the same text, and
the same follows them. -/
theorem IsPrefixCode.flatMap_append_inj (hcode : IsPrefixCode code) (IsEnd : List Char → Prop)
    (hend : ∀ c x, ¬IsEnd (code c ++ x)) {s t x y : List Char} (hx : IsEnd x) (hy : IsEnd y)
    (h : s.flatMap code ++ x = t.flatMap code ++ y) : s = t ∧ x = y := by
  induction s generalizing t with
  | nil =>
    cases t with
    | nil => exact ⟨rfl, h⟩
    | cons d t =>
      rw [List.flatMap_nil, List.nil_append, List.flatMap_cons, List.append_assoc] at h
      exact absurd (h ▸ hx) (hend d _)
  | cons c s ih =>
    rw [List.flatMap_cons, List.append_assoc] at h
    cases t with
    | nil =>
      rw [List.flatMap_nil, List.nil_append] at h
      exact absurd (h.symm ▸ hy) (hend c _)
    | cons d t =>
      rw [List.flatMap_cons, List.append_assoc] at h
      obtain ⟨rfl, hrest⟩ := hcode h
      obtain ⟨rfl, hxy⟩ := ih hrest
      exact ⟨rfl, hxy⟩

end Text

/-! ## Words of the shell -/

/-- The first character of the text between single quotes, and what follows it. -/
def readShellChar? : List Char → Option (Char × List Char)
  | '\'' :: '\\' :: '\'' :: '\'' :: rest => some ('\'', rest)
  | c :: rest => some (c, rest)
  | [] => none

private theorem readShellChar?_shellQuoteChar_append (c : Char) (x : List Char) :
    readShellChar? (shellQuoteChar c ++ x) = some (c, x) := by
  rw [shellQuoteChar]
  split
  · next h => subst h; rfl
  · next h =>
    change readShellChar? (c :: x) = _
    unfold readShellChar?
    split <;> simp_all

/-- Texts that are quoted alike are the same. -/
theorem shellQuote_injective : Function.Injective shellQuote := by
  intro s t h
  have hbody : s.toList.flatMap shellQuoteChar = t.toList.flatMap shellQuoteChar := by
    have := congrArg String.toList h
    simpa [shellQuote, shellQuoteBody] using this
  have hcode : Text.IsPrefixCode shellQuoteChar :=
    .of_read Function.injective_id readShellChar?_shellQuoteChar_append
  have hend : ∀ c x, ¬shellQuoteChar c ++ x = [] := by
    intro c x
    rw [shellQuoteChar]
    split <;> simp
  have hst := hcode.flatMap_append_inj (· = []) hend rfl rfl (by simpa using hbody)
  exact String.toList_inj.mp hst.1

end Runbook
