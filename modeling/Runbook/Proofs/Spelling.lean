import Runbook.Number.Shortest
import Runbook.Text.Blank

/-!
# How numbers are spelled

The text of a number holds digits, letters, signs and a point, and nothing that has a meaning of its
own where numbers are written: no quote, no bracket, no separator. It is never blank. The text of an
integer tells the integer.
-/

namespace Runbook

def isNumberChar (c : Char) : Bool := c.isAlphanum || c == '-' || c == '+' || c == '.'

private theorem isNumberChar_of_isDigit {c : Char} (h : c.isDigit = true) :
    isNumberChar c = true := by
  simp [isNumberChar, Char.isAlphanum, h]

private theorem all_isNumberChar_toDigits (n : Nat) :
    (Nat.toDigits 10 n).all isNumberChar = true := by
  rw [List.all_eq_true]
  intro c hc
  exact isNumberChar_of_isDigit (Nat.isDigit_of_mem_toDigits (by decide) (by decide) hc)

theorem all_isNumberChar_repr (n : Int) : n.repr.toList.all isNumberChar = true := by
  have hdigits : ∀ m : Nat, m.repr.toList.all isNumberChar = true := by
    intro m
    rw [Nat.repr_eq_ofList_toDigits, String.toList_ofList]
    exact all_isNumberChar_toDigits m
  rw [Int.repr_eq_if]
  split
  · exact hdigits n.toNat
  · rw [String.toList_append, List.all_append, hdigits, Bool.and_true]
    rfl

/-- The integer that digits spell, with a minus sign in front of them or without. -/
def spelledInt? : List Char → Option Int
  | [] | ['-'] => none
  | '-' :: digits => some (-(Nat.ofDigitChars 10 digits 0 : Int))
  | digits => some (Nat.ofDigitChars 10 digits 0)

theorem spelledInt?_repr (n : Int) : spelledInt? n.repr.toList = some n := by
  have hdigits : ∀ m : Nat, ∃ c rest, m.repr.toList = c :: rest ∧ c ≠ '-' ∧
      Nat.ofDigitChars 10 (c :: rest) 0 = m := by
    intro m
    rw [Nat.repr_eq_ofList_toDigits, String.toList_ofList]
    obtain ⟨c, rest, hm⟩ := List.exists_cons_of_ne_nil (Nat.toDigits_ne_nil (n := m) (b := 10))
    refine ⟨c, rest, hm, ?_, by rw [← hm, Nat.ofDigitChars_ten_toDigits]⟩
    rintro rfl
    have hdigit := Nat.isDigit_of_mem_toDigits (by decide) (by decide) (hm ▸ List.mem_cons_self)
    exact absurd hdigit (by decide)
  rw [Int.repr_eq_if]
  split
  · obtain ⟨c, rest, hrepr, hsign, hvalue⟩ := hdigits n.toNat
    have hread : spelledInt? (c :: rest) = some (Nat.ofDigitChars 10 (c :: rest) 0 : Int) := by
      unfold spelledInt?
      split <;> simp_all
    rw [hrepr, hread, hvalue, Int.toNat_of_nonneg ‹_›]
  · obtain ⟨c, rest, hrepr, -, hvalue⟩ := hdigits (-n).toNat
    rw [String.toList_append, hrepr]
    change some (-(Nat.ofDigitChars 10 (c :: rest) 0 : Int)) = some n
    rw [hvalue, Option.some_inj]
    omega

theorem eq_of_repr_eq {m n : Int} (h : m.repr.toList = n.repr.toList) : m = n := by
  rw [← Option.some_inj, ← spelledInt?_repr m, h, spelledInt?_repr]

namespace Binary64

private theorem all_isNumberChar_of_subset {s t : List Char} (hsub : s ⊆ t)
    (h : t.all isNumberChar = true) : s.all isNumberChar = true := by
  rw [List.all_eq_true] at h ⊢
  intro c hc
  exact h c (hsub hc)

private theorem all_replicate_zero (count : Nat) :
    (List.replicate count '0').all isNumberChar = true := by
  simp [isNumberChar]

private theorem all_dropTrailingZeros {digits : List Char} (h : digits.all isNumberChar = true) :
    (dropTrailingZeros digits).all isNumberChar = true := by
  rw [dropTrailingZeros]
  split
  · rfl
  · refine all_isNumberChar_of_subset (fun c hc ↦ ?_) h
    have hkept : c ∈ digits.reverse.dropWhile (· == '0') := List.mem_reverse.mp hc
    exact List.mem_reverse.mp ((List.dropWhile_sublist _).subset hkept)

private theorem all_exponentText (e : Int) : (exponentText e).all isNumberChar = true := by
  have hsign : isNumberChar (if e < 0 then '-' else '+') = true := by split <;> rfl
  simp only [exponentText, List.all_cons, List.all_append, all_replicate_zero,
    all_isNumberChar_toDigits, hsign]
  rfl

private theorem all_layout {digits : List Char} (h : digits.all isNumberChar = true) (lead : Int) :
    (layout digits lead).all isNumberChar = true := by
  unfold layout
  split
  · cases digits with
    | nil => rfl
    | cons d rest =>
      rw [List.all_cons, Bool.and_eq_true] at h
      dsimp only
      rw [List.all_cons, h.1, List.all_append, all_exponentText]
      split
      · rfl
      · rw [List.all_cons, h.2]
        rfl
  · split
    · simp only [List.all_cons, List.all_append, all_replicate_zero, h]
      rfl
    · have htake := all_isNumberChar_of_subset (List.take_subset (lead.toNat + 1) digits) h
      have hdrop := all_isNumberChar_of_subset (List.drop_subset (lead.toNat + 1) digits) h
      simp only [List.all_cons, List.all_append, all_replicate_zero, htake]
      split
      · rfl
      · rw [hdrop]
        rfl

private theorem all_isNumberChar_textAs {spelling : Spelling}
    (hnan : spelling.nan.toList.all isNumberChar = true)
    (hinfinity : spelling.infinity.toList.all isNumberChar = true) (x : Binary64) :
    (x.textAs spelling).toList.all isNumberChar = true := by
  have hsign : ∀ negative : Bool,
      (if negative then "-" else "").toList.all isNumberChar = true := by decide
  cases x with
  | nan => exact hnan
  | infinite negative =>
    rw [textAs, String.toList_append, List.all_append, hsign, hinfinity]
    rfl
  | finite negative mantissa exponent =>
    rw [textAs, String.toList_append, List.all_append, hsign, String.toList_ofList,
      magnitudeText]
    split
    · rfl
    · exact all_layout (all_dropTrailingZeros (all_isNumberChar_toDigits _)) _

theorem all_isNumberChar_json (x : Binary64) : x.json.toList.all isNumberChar = true :=
  all_isNumberChar_textAs (by decide) (by decide) x

theorem all_isNumberChar_literal (x : Binary64) : x.literal.toList.all isNumberChar = true :=
  all_isNumberChar_textAs (by decide) (by decide) x

end Binary64

/-! ## Numbers are not blank -/

theorem toNat_of_isNumberChar {c : Char} (h : isNumberChar c = true) :
    0x2B ≤ c.toNat ∧ c.toNat < 0x7F := by
  delta isNumberChar Char.isAlphanum Char.isAlpha Char.isUpper Char.isLower Char.isDigit at h
  simp only [Bool.or_eq_true, Bool.and_eq_true, beq_iff_eq, decide_eq_true_eq,
    UInt32.le_iff_toNat_le, Char.toNat_val, Char.reduceVal, UInt32.reduceToNat, ge_iff_le] at h
  rcases h with ((h | rfl) | rfl) | rfl
  · omega
  all_goals decide

theorem isBlank_of_isNumberChar {c : Char} (h : isNumberChar c = true) :
    Text.isBlank c = false := by
  obtain ⟨hlow, hhigh⟩ := toNat_of_isNumberChar h
  have hspace : c ≠ ' ' := by
    rintro rfl
    exact absurd hlow (by decide)
  have hascii : c.toNat < 0x80 := by omega
  rw [Text.isBlank, Text.isAscii, if_pos (by simpa using hascii)]
  simp only [Bool.or_eq_false_iff, beq_eq_false_iff_ne, Bool.and_eq_false_iff,
    decide_eq_false_iff_not]
  exact ⟨⟨hspace, by omega⟩, by omega⟩

private theorem isBlankText_of_number {text : String} (hne : text.toList ≠ [])
    (h : text.toList.all isNumberChar = true) : Text.isBlankText text = false := by
  obtain ⟨c, rest, htext⟩ := List.exists_cons_of_ne_nil hne
  rw [htext, List.all_cons, Bool.and_eq_true] at h
  rw [Text.isBlankText, htext, List.all_cons, isBlank_of_isNumberChar h.1, Bool.false_and]

theorem isBlankText_repr (n : Int) : Text.isBlankText n.repr = false := by
  refine isBlankText_of_number ?_ (all_isNumberChar_repr n)
  rw [Int.repr_eq_if]
  split
  · rw [Nat.repr_eq_ofList_toDigits, String.toList_ofList]
    exact Nat.toDigits_ne_nil
  · rw [String.toList_append]
    exact List.cons_ne_nil _ _

namespace Binary64

private theorem dropTrailingZeros_ne_nil (digits : List Char) : dropTrailingZeros digits ≠ [] := by
  rw [dropTrailingZeros]
  split
  · exact List.cons_ne_nil _ _
  · next hne => exact hne

private theorem layout_ne_nil {digits : List Char} (h : digits ≠ []) (lead : Int) :
    layout digits lead ≠ [] := by
  obtain ⟨d, rest, rfl⟩ := List.exists_cons_of_ne_nil h
  rw [layout]
  split
  · exact List.cons_ne_nil _ _
  · split
    · exact List.cons_ne_nil _ _
    · exact List.append_ne_nil_of_right_ne_nil _ (List.cons_ne_nil _ _)

theorem isBlankText_literal (x : Binary64) : Text.isBlankText x.literal = false := by
  refine isBlankText_of_number ?_ x.all_isNumberChar_literal
  cases x with
  | nan => decide
  | infinite negative => cases negative <;> decide
  | finite negative mantissa exponent =>
    rw [literal, textAs, String.toList_append, String.toList_ofList]
    apply List.append_ne_nil_of_right_ne_nil
    rw [magnitudeText]
    split
    · exact List.cons_ne_nil _ _
    · exact layout_ne_nil (dropTrailingZeros_ne_nil _) _

end Binary64

end Runbook
