import Runbook.Markdown.Splice
import Runbook.Proofs.JsonStrings

/-!
# Texts with gaps

A skeleton is a text with gaps for leaves that are not there yet. Skeletons can be appended and
joined like texts, and weaving leaves into them commutes with both.

The second half is about the pieces of such a text when it is JSON. A piece in which no string holds
a NUL character is unmarked. The hard case is a string with escaped quotes: each of them might begin
a marker, but a marker goes on with the escape of NUL, and escapes are a prefix code. So no marker
begins in an unmarked piece (`Unmarked.clear`), and the first one behind it is found at its end
(`Unmarked.splitFirst?_append`).
-/

namespace Runbook

/-! ## Skeletons -/

/-- A text with gaps: what stands before the first gap, and what stands behind each of them. -/
structure Skeleton where
  first : List Char
  rest : List (List Char) := []
deriving Repr

namespace Skeleton

/-- The number of gaps. -/
def gaps (skeleton : Skeleton) : Nat := skeleton.rest.length

/-- The pieces behind gaps with the leaves in front of them, which are numbered from `index` on. -/
def weaveRest (leaf : Nat → List Char) (index : Nat) : List (List Char) → List Char
  | [] => []
  | piece :: rest => leaf index ++ piece ++ weaveRest leaf (index + 1) rest

/-- The text with leaves in its gaps, which are numbered from `index` on. -/
def weave (leaf : Nat → List Char) (index : Nat) (skeleton : Skeleton) : List Char :=
  skeleton.first ++ weaveRest leaf index skeleton.rest

/-- A skeleton behind the pieces of another one: the last piece and its first one become one. -/
def behind (next : Skeleton) (first : List Char) : List (List Char) → Skeleton
  | [] => ⟨first ++ next.first, next.rest⟩
  | piece :: rest =>
    let others := behind next piece rest
    ⟨first, others.first :: others.rest⟩

instance : Append Skeleton where
  append skeleton next := behind next skeleton.first skeleton.rest

private theorem append_def (s t : Skeleton) : s ++ t = behind t s.first s.rest := rfl

@[simp]
theorem gaps_append (s t : Skeleton) : (s ++ t).gaps = s.gaps + t.gaps := by
  obtain ⟨first, rest⟩ := s
  rw [append_def]
  induction rest generalizing first with
  | nil => simp [behind, gaps]
  | cons piece rest ih =>
    have hrest := ih piece
    simp only [behind, gaps, List.length_cons] at hrest ⊢
    omega

theorem weave_append (leaf : Nat → List Char) (index : Nat) (s t : Skeleton) :
    (s ++ t).weave leaf index = s.weave leaf index ++ t.weave leaf (index + s.gaps) := by
  obtain ⟨first, rest⟩ := s
  rw [append_def]
  induction rest generalizing first index with
  | nil => simp [behind, weave, weaveRest, gaps]
  | cons piece rest ih =>
    have hrest := ih (index + 1) piece
    have hindex : index + 1 + rest.length = index + (rest.length + 1) := by omega
    simp only [behind, weave, weaveRest, gaps, List.length_cons, List.append_assoc, hindex]
      at hrest ⊢
    rw [hrest]

/-- A text without gaps. -/
def ofText (text : String) : Skeleton := ⟨text.toList, []⟩

@[simp]
theorem gaps_ofText (text : String) : (ofText text).gaps = 0 := rfl

@[simp]
theorem weave_ofText (leaf : Nat → List Char) (index : Nat) (text : String) :
    (ofText text).weave leaf index = text.toList := List.append_nil _

/-- Every piece satisfies `p`. -/
def All (p : List Char → Prop) (skeleton : Skeleton) : Prop :=
  ∀ piece ∈ skeleton.first :: skeleton.rest, p piece

theorem All.ofText {p : List Char → Prop} {text : String} (h : p text.toList) :
    (ofText text).All p := List.forall_mem_singleton.mpr h

theorem All.append {p : List Char → Prop} (hp : ∀ x y, p x → p y → p (x ++ y)) {s t : Skeleton}
    (hs : s.All p) (ht : t.All p) : (s ++ t).All p := by
  obtain ⟨first, rest⟩ := s
  have hnext := List.forall_mem_cons.mp ht
  rw [append_def]
  induction rest generalizing first with
  | nil =>
    have hfirst := hs first List.mem_cons_self
    exact List.forall_mem_cons.mpr ⟨hp _ _ hfirst hnext.1, hnext.2⟩
  | cons piece rest ih =>
    obtain ⟨hfirst, hrest⟩ := List.forall_mem_cons.mp hs
    exact List.forall_mem_cons.mpr ⟨hfirst, ih piece hrest⟩

/-! ## Skeletons in a row -/

/-- Skeletons one after the other, divided by a text. -/
def join (separator : String) : List Skeleton → Skeleton
  | [] => ofText ""
  | [part] => part
  | part :: next :: rest => part ++ (ofText separator ++ join separator (next :: rest))

/-- The texts of skeletons whose gaps are numbered from `index` on. -/
def weaveEach (leaf : Nat → List Char) (index : Nat) : List Skeleton → List (List Char)
  | [] => []
  | part :: rest => part.weave leaf index :: weaveEach leaf (index + part.gaps) rest

def gapsOf : List Skeleton → Nat
  | [] => 0
  | part :: rest => part.gaps + gapsOf rest

theorem weave_join (leaf : Nat → List Char) (index : Nat) (separator : String)
    (parts : List Skeleton) :
    (join separator parts).weave leaf index =
      Text.joinChars separator.toList (weaveEach leaf index parts) := by
  induction parts generalizing index with
  | nil => rfl
  | cons part rest ih =>
    cases rest with
    | nil => rfl
    | cons next rest =>
      simp only [join, weave_append, ih, weave_ofText, gaps_ofText, Nat.add_zero, weaveEach,
        Text.joinChars, List.append_assoc]

theorem gaps_join (separator : String) (parts : List Skeleton) :
    (join separator parts).gaps = gapsOf parts := by
  induction parts with
  | nil => rfl
  | cons part rest ih =>
    cases rest with
    | nil => rfl
    | cons next rest =>
      rw [join, gaps_append, gaps_append, ih, gaps_ofText, Nat.zero_add, ← gapsOf]

theorem All.join {p : List Char → Prop} (hp : ∀ x y, p x → p y → p (x ++ y)) (hnil : p [])
    {separator : String} (hseparator : p separator.toList) {parts : List Skeleton}
    (h : ∀ part ∈ parts, part.All p) : (join separator parts).All p := by
  induction parts with
  | nil => exact .ofText hnil
  | cons part rest ih =>
    obtain ⟨hpart, hrest⟩ := List.forall_mem_cons.mp h
    cases rest with
    | nil => exact hpart
    | cons next rest => exact hpart.append hp ((All.ofText hseparator).append hp (ih hrest))

end Skeleton

/-! ## Texts without markers -/

namespace Text

private theorem notMem_hexDigits {c : Char} (h : ∀ d < 16, c ≠ hexDigit d) (width n : Nat) :
    c ∉ hexDigits width n := by
  induction width generalizing n with
  | zero => exact List.not_mem_nil
  | succ width ih =>
    rw [hexDigits, List.mem_append, List.mem_singleton]
    exact not_or.mpr ⟨ih _, h _ (Nat.mod_lt _ (by decide))⟩

/-- The escape of a unit holds a backslash, a letter and digits. -/
theorem notMem_jsonUnit {d : Char} (hescape : d ≠ '\\' ∧ d ≠ 'u')
    (hhex : ∀ n < 16, d ≠ hexDigit n) (n : Nat) : d ∉ jsonUnit n := by
  simp [jsonUnit, notMem_hexDigits hhex, hescape]

/-- The code of a character holds the character itself, if it is printable, and what escapes are
written with. -/
theorem notMem_jsonChar {c d : Char} (hescape : d ∉ ['\\', 'n', 'r', 't', 'f', 'b', 'u'])
    (hhex : ∀ n < 16, d ≠ hexDigit n) (hplain : 0x20 ≤ c.toNat → d ≠ c) : d ∉ jsonChar c := by
  simp only [List.mem_cons, List.not_mem_nil, or_false, not_or] at hescape
  obtain ⟨hstart, hn, hr, ht, hf, hb, hu⟩ := hescape
  have hunit := notMem_jsonUnit ⟨hstart, hu⟩ hhex
  rw [jsonChar]
  split
  · next hc =>
    subst hc
    simp [hstart, hplain (by decide)]
  iterate 6 (split; · simp [hstart, hn, hr, ht, hf, hb])
  split
  · next hprint => simpa using hplain hprint.1
  split
  · exact hunit _
  · rw [List.mem_append]
    exact not_or.mpr ⟨hunit _, hunit _⟩

variable {pattern text rest : List Char}

theorem stripStart?_eq_none_iff : stripStart? pattern text = none ↔ ¬pattern <+: text := by
  cases h : stripStart? pattern text with
  | none =>
    refine iff_of_true rfl ?_
    rintro ⟨more, rfl⟩
    rw [stripStart?_append] at h
    cases h
  | some more =>
    refine iff_of_false (Option.some_ne_none more) (not_not_intro ?_)
    exact ⟨more, (eq_append_of_stripStart? h).symm⟩

/-- The pattern begins nowhere in a text that `rest` follows. -/
def Clear (pattern : List Char) : List Char → List Char → Prop
  | [], _ => True
  | c :: text, rest => ¬pattern <+: c :: (text ++ rest) ∧ Clear pattern text rest

theorem clear_append {more : List Char} :
    Clear pattern (text ++ more) rest ↔
      Clear pattern text (more ++ rest) ∧ Clear pattern more rest := by
  induction text with
  | nil => simp [Clear]
  | cons c text ih => rw [List.cons_append, Clear, ih, Clear, List.append_assoc, and_assoc]

/-- A search passes over a text in which the pattern does not begin. -/
theorem Clear.splitFirst?_append (h : Clear pattern text rest) :
    splitFirst? pattern (text ++ rest) =
      (splitFirst? pattern rest).map fun pieces ↦ (text ++ pieces.1, pieces.2) := by
  induction text with
  | nil => simp
  | cons c text ih =>
    rw [List.cons_append, splitFirst?, stripStart?_eq_none_iff.mpr h.1, ih h.2, Option.map_map]
    rfl

theorem Clear.not_isInfix (hpattern : pattern ≠ []) (h : Clear pattern text []) :
    ¬pattern <:+: text := by
  induction text with
  | nil => rwa [List.infix_nil]
  | cons c text ih =>
    rw [List.infix_cons_iff, not_or]
    rw [Clear, List.append_nil] at h
    exact ⟨h.1, ih h.2⟩

private theorem splitFirst?_append_self (hpattern : pattern ≠ []) (after : List Char) :
    splitFirst? pattern (pattern ++ after) = some ([], after) := by
  cases pattern with
  | nil => exact absurd rfl hpattern
  | cons p pattern =>
    rw [List.cons_append, splitFirst?, ← List.cons_append, stripStart?_append]

/-- An occurrence behind a text in which the pattern does not begin is the first one. -/
theorem Clear.splitFirst?_self (hpattern : pattern ≠ []) {after : List Char}
    (h : Clear pattern text (pattern ++ after)) :
    splitFirst? pattern (text ++ (pattern ++ after)) = some (text, after) := by
  rw [h.splitFirst?_append, splitFirst?_append_self hpattern, Option.map_some, List.append_nil]

end Text

namespace Markdown

open Text (jsonChar jsonString splitFirst? Clear)

/-- JSON text in which no string holds a NUL character: such strings, and characters outside of
strings. -/
inductive Unmarked : List Char → Prop
  | nil : Unmarked []
  | plain {c : Char} {rest : List Char} (hquote : c ≠ '"') (hescape : c ≠ '\\')
      (hrest : Unmarked rest) : Unmarked (c :: rest)
  | string {key : PathKey} {rest : List Char} (hkey : .char '\x00' ∉ key.points)
      (hrest : Unmarked rest) : Unmarked (key.json.toList ++ rest)

theorem Unmarked.append {s t : List Char} (hs : Unmarked s) (ht : Unmarked t) :
    Unmarked (s ++ t) := by
  induction hs with
  | nil => exact ht
  | plain hquote hescape _ ih => exact .plain hquote hescape ih
  | string hkey _ ih => rw [List.append_assoc]; exact .string hkey ih

variable {index : Nat} {x y : List Char}

/-- A marker begins with a quote and the escape of NUL. -/
theorem toList_jsonMarker (index : Nat) :
    ∃ rest, (jsonMarker index).toList = '"' :: (jsonChar '\x00' ++ rest) :=
  ⟨_, by simp [jsonMarker, marker, jsonString]; rfl⟩

theorem jsonMarker_ne_nil (index : Nat) : (jsonMarker index).toList ≠ [] := by
  obtain ⟨rest, hrest⟩ := toList_jsonMarker index
  rw [hrest]
  exact List.cons_ne_nil _ _

/-- No marker begins at a quote that the escape of NUL does not follow. -/
theorem not_isPrefix_quote (index : Nat) (h : ∀ rest, x ≠ jsonChar '\x00' ++ rest) :
    ¬(jsonMarker index).toList <+: '"' :: x := by
  rintro ⟨more, hmore⟩
  obtain ⟨rest, hrest⟩ := toList_jsonMarker index
  rw [hrest, List.cons_append, List.append_assoc] at hmore
  exact h _ (List.tail_eq_of_cons_eq hmore).symm

theorem clear_of_notMem (h : '"' ∉ x) (y : List Char) : Clear (jsonMarker index).toList x y := by
  induction x with
  | nil => trivial
  | cons c x ih =>
    rw [List.mem_cons, not_or] at h
    refine ⟨?_, ih h.2⟩
    obtain ⟨rest, hrest⟩ := toList_jsonMarker index
    rw [hrest, List.cons_prefix_cons]
    exact fun hprefix ↦ h.1 hprefix.1

/-- What is inside a string without NUL begins with no escape of NUL. -/
theorem stringBody_ne {points : List CodePoint} (h : .char '\x00' ∉ points) (rest : List Char) :
    points.flatMap CodePoint.json ++ '"' :: y ≠ jsonChar '\x00' ++ rest := by
  intro heq
  cases points with
  | nil => exact absurd heq.symm (Text.jsonChar_append_ne_quote _ _ _)
  | cons point points =>
    rw [List.flatMap_cons, List.append_assoc] at heq
    cases point with
    | char c => exact h (by rw [(Text.isPrefixCode_jsonChar heq).1]; exact List.mem_cons_self)
    | surrogate offset =>
      have hunit := CodePoint.escapedUnit?_surrogate offset
        (points.flatMap CodePoint.json ++ '"' :: y)
      rw [heq, show jsonChar '\x00' = Text.jsonUnit 0 from rfl,
        Text.escapedUnit?_jsonUnit (by decide)] at hunit
      have hzero := (Prod.mk.inj (Option.some.inj hunit)).1
      omega

private theorem clear_stringBody (index : Nat) {points : List CodePoint} (h : .char '\x00' ∉ points)
    (y : List Char) :
    Clear (jsonMarker index).toList (points.flatMap CodePoint.json) ('"' :: y) := by
  induction points with
  | nil => trivial
  | cons point points ih =>
    have hrest : .char '\x00' ∉ points := fun hmem ↦ h (List.mem_cons_of_mem _ hmem)
    rw [List.flatMap_cons, Text.clear_append]
    refine ⟨?_, ih hrest⟩
    cases point with
    | char c =>
      by_cases hc : c = '"'
      · subst hc
        have hquote := not_isPrefix_quote index (stringBody_ne (y := y) hrest)
        exact ⟨(clear_of_notMem (x := ['\\']) (by decide) _).1, hquote, trivial⟩
      · have hquote := Text.notMem_jsonChar (d := '"') (by decide) (by decide) fun _ ↦ Ne.symm hc
        exact clear_of_notMem hquote _
    | surrogate offset => exact clear_of_notMem (Text.notMem_jsonUnit (by decide) (by decide) _) _

/-- What does not begin with a backslash does not begin with the escape of NUL. -/
theorem ne_escape (hy : y.head? ≠ some '\\') (rest : List Char) : y ≠ jsonChar '\x00' ++ rest := by
  rintro rfl
  exact hy rfl

theorem Unmarked.head?_ne {head : List Char} (h : Unmarked head) : head.head? ≠ some '\\' := by
  cases h with
  | nil => simp
  | plain _ hescape _ => simpa using hescape
  | string _ _ => simp [PathKey.json]

theorem head?_append_ne (hx : x.head? ≠ some '\\') (hy : y.head? ≠ some '\\') :
    (x ++ y).head? ≠ some '\\' := by
  cases x with
  | nil => exact hy
  | cons c x => exact hx

/-- No marker begins in a text without markers, nor at the quote that ends it, unless a backslash
follows. -/
theorem Unmarked.clear {head : List Char} (h : Unmarked head) (index : Nat)
    (hy : y.head? ≠ some '\\') : Clear (jsonMarker index).toList head y := by
  induction h with
  | nil => trivial
  | @plain c rest hquote _ _ ih =>
    exact ⟨(clear_of_notMem (x := [c]) (by simpa using hquote.symm) _).1, ih⟩
  | @string key rest hkey hrest ih =>
    -- The opening quote is followed by the characters of the string, and the closing one by what no
    -- escape begins.
    have hopen := not_isPrefix_quote index (stringBody_ne (y := rest ++ y) hkey)
    have hclose := not_isPrefix_quote index (ne_escape (head?_append_ne hrest.head?_ne hy))
    have hbody := clear_stringBody index hkey (rest ++ y)
    have htext : key.json.toList ++ rest =
        '"' :: (key.points.flatMap CodePoint.json ++ '"' :: rest) := by
      simp [PathKey.json]
    rw [htext, Clear, Text.clear_append, List.append_assoc]
    exact ⟨hopen, hbody, hclose, ih⟩

theorem head?_jsonMarker (index : Nat) : (jsonMarker index).toList.head? ≠ some '\\' := by
  obtain ⟨rest, hrest⟩ := toList_jsonMarker index
  simp [hrest]

/-- A marker behind a text without markers is the first one. -/
theorem Unmarked.splitFirst?_append {head : List Char} (h : Unmarked head) (index : Nat)
    (tail : List Char) :
    splitFirst? (jsonMarker index).toList (head ++ ((jsonMarker index).toList ++ tail)) =
      some (head, tail) := by
  have hhead : ((jsonMarker index).toList ++ tail).head? ≠ some '\\' := by
    obtain ⟨rest, hrest⟩ := toList_jsonMarker index
    simp [hrest]
  exact (h.clear index hhead).splitFirst?_self (jsonMarker_ne_nil index)

theorem Unmarked.no_jsonMarker {head : List Char} (h : Unmarked head) (index : Nat) :
    ¬(jsonMarker index).toList <:+: head :=
  (h.clear index (by simp)).not_isInfix (jsonMarker_ne_nil index)

end Markdown

end Runbook
