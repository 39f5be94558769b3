import Mathlib.Data.List.Chain
import Runbook.Proofs.Escaping

/-!
# Reading JSON strings

Inside a JSON string an escaped unit of sixteen bits stands for a character, for a surrogate, or,
together with the unit behind it, for the character of a surrogate pair. So a reader gives the
characters of a text back, and of the code points of a key it joins those that are a pair
(`PathKey.joined`): two keys are written as the same JSON string exactly if they are the same once
their pairs are joined (`PathKey.json_eq_iff`).
-/

namespace Runbook

namespace Text

/-! ## Units -/

/-- The character that a character behind a backslash stands for. -/
def escaped? : Char → Option Char
  | '"' => some '"'
  | '\\' => some '\\'
  | '/' => some '/'
  | 'b' => some '\x08'
  | 'f' => some '\x0c'
  | 'n' => some '\n'
  | 'r' => some '\r'
  | 't' => some '\t'
  | _ => none

/-- The value of a hexadecimal digit. -/
def hexDigit? (c : Char) : Option Nat :=
  if c.isDigit then some (c.toNat - 0x30)
  else if 0x61 ≤ c.toNat ∧ c.toNat ≤ 0x66 then some (c.toNat - 0x57)
  else if 0x41 ≤ c.toNat ∧ c.toNat ≤ 0x46 then some (c.toNat - 0x37)
  else none

/-- The sixteen bit unit that four hexadecimal digits denote, and what follows them. -/
def unit? : List Char → Option (Nat × List Char)
  | a :: b :: c :: d :: rest => do
    let high := 16 * (← hexDigit? a) + (← hexDigit? b)
    let low := 16 * (← hexDigit? c) + (← hexDigit? d)
    return (0x100 * high + low, rest)
  | _ => none

/-- An escaped unit, and what follows it. -/
def escapedUnit? : List Char → Option (Nat × List Char)
  | '\\' :: 'u' :: rest => unit? rest
  | _ => none

private theorem hexDigit?_hexDigit : ∀ n < 16, hexDigit? (hexDigit n) = some n := by decide

theorem escapedUnit?_jsonUnit {n : Nat} (h : n < 0x10000) (x : List Char) :
    escapedUnit? (jsonUnit n ++ x) = some (n, x) := by
  have hdigit : ∀ m, hexDigit? (hexDigit (m % 16)) = some (m % 16) :=
    fun m ↦ hexDigit?_hexDigit _ (Nat.mod_lt _ (by decide))
  have hvalue : 0x100 * (16 * (n / 16 / 16 / 16 % 16) + n / 16 / 16 % 16) +
      (16 * (n / 16 % 16) + n % 16) = n := by
    omega
  simp only [jsonUnit, hexDigits, List.nil_append, List.cons_append, escapedUnit?, unit?,
    hdigit, Option.bind_eq_bind, Option.bind_some, hvalue]
  rfl

private theorem length_of_escapedUnit? {text rest : List Char} {unit : Nat}
    (h : escapedUnit? text = some (unit, rest)) : rest.length < text.length := by
  unfold escapedUnit? at h
  split at h
  · unfold unit? at h
    split at h
    · simp only [Option.bind_eq_bind, Option.bind_eq_some_iff] at h
      obtain ⟨_, -, _, -, _, -, _, -, h⟩ := h
      cases h
      simp only [List.length_cons]
      omega
    · cases h
  · cases h

/-! ## Code points -/

/-- The character of a surrogate pair; each half is given by its distance from the first of its
kind. -/
def pairChar (high low : Nat) : Char := Char.ofNat (0x10000 + high * 0x400 + low)

private theorem toNat_pairChar {high low : Nat} (hhigh : high < 0x400) (hlow : low < 0x400) :
    (pairChar high low).toNat = 0x10000 + high * 0x400 + low := by
  have hvalid : (0x10000 + high * 0x400 + low).isValidChar := .inr (by omega)
  rw [pairChar, Char.ofNat, dif_pos hvalid]
  rfl

/-- The second half of a surrogate pair at the start of a text, and what follows it. -/
def lowUnit? (text : List Char) : Option (Nat × List Char) :=
  (escapedUnit? text).bind fun (unit, rest) ↦
    if 0xDC00 ≤ unit ∧ unit < 0xE000 then some (unit - 0xDC00, rest) else none

/-- The code point that an escaped unit stands for, alone or together with the unit behind it. -/
def unitPoint (unit : Nat) (rest : List Char) : CodePoint × List Char :=
  if unit < 0xD800 ∨ 0xE000 ≤ unit then (.char (Char.ofNat unit), rest)
  else
    match if unit < 0xDC00 then lowUnit? rest else none with
    | some (low, more) => (.char (pairChar (unit - 0xD800) low), more)
    | none => (.surrogate (Fin.ofNat 0x800 (unit - 0xD800)), rest)

/-- The first code point inside a JSON string, and what follows it. -/
def readPoint? (text : List Char) : Option (CodePoint × List Char) :=
  match escapedUnit? text, text with
  | some (unit, rest), _ => some (unitPoint unit rest)
  | none, '\\' :: c :: rest => (escaped? c).map fun d ↦ (.char d, rest)
  | none, c :: rest => if c.toNat < 0x20 ∨ c = '"' ∨ c = '\\' then none else some (.char c, rest)
  | none, [] => none

private theorem readPoint?_of_unit {text rest : List Char} {unit : Nat}
    (h : escapedUnit? text = some (unit, rest)) :
    readPoint? text = some (unitPoint unit rest) := by
  simp only [readPoint?, h]

private theorem escapedUnit?_eq_none {c : Char} (h : c ≠ '\\') (x : List Char) :
    escapedUnit? (c :: x) = none := by
  unfold escapedUnit?
  split <;> simp_all

private theorem readPoint?_plain {c : Char} (hcontrol : 0x20 ≤ c.toNat) (hquote : c ≠ '"')
    (hescape : c ≠ '\\') (x : List Char) : readPoint? (c :: x) = some (.char c, x) := by
  unfold readPoint?
  rw [escapedUnit?_eq_none hescape]
  split <;> simp_all

/-- Two units are read as the character that they are a surrogate pair of. -/
theorem unitPoint_pair {high low : Nat} (hhigh : high < 0x400) (hlow : low < 0x400)
    (x : List Char) :
    unitPoint (0xD800 + high) (jsonUnit (0xDC00 + low) ++ x) = (.char (pairChar high low), x) := by
  have hsecond : lowUnit? (jsonUnit (0xDC00 + low) ++ x) = some (low, x) := by
    rw [lowUnit?, escapedUnit?_jsonUnit (by omega), Option.bind_some]
    dsimp only
    rw [if_pos (by omega), Nat.add_sub_cancel_left]
  rw [unitPoint, if_neg (by omega), if_pos (by omega), hsecond, Nat.add_sub_cancel_left]

/-- A character is no surrogate. -/
theorem toNat_lt_or_gt (c : Char) :
    c.toNat < 0xD800 ∨ (0xDFFF < c.toNat ∧ c.toNat < 0x110000) := c.valid

private theorem readPoint?_jsonChar_append (c : Char) (x : List Char) :
    readPoint? (jsonChar c ++ x) = some (.char c, x) := by
  have hvalid := toNat_lt_or_gt c
  rw [jsonChar]
  -- The characters with an escape of their own come first.
  iterate 7 (split; · next h => subst h; rfl)
  split
  · next hplain => exact readPoint?_plain hplain.1 ‹_› ‹_› x
  split
  · next hunit =>
    rw [readPoint?_of_unit (escapedUnit?_jsonUnit hunit x), unitPoint, if_pos (by omega),
      Char.ofNat_toNat]
  · next hpair =>
    have hfirst : 0xD800 + (c.toNat - 0x10000) / 0x400 < 0x10000 := by omega
    have hvalue : 0x10000 + (c.toNat - 0x10000) / 0x400 * 0x400 + (c.toNat - 0x10000) % 0x400 =
        c.toNat := by
      omega
    rw [List.append_assoc, readPoint?_of_unit (escapedUnit?_jsonUnit hfirst _),
      unitPoint_pair (by omega) (by omega), pairChar, hvalue, Char.ofNat_toNat]

theorem isPrefixCode_jsonChar : IsPrefixCode jsonChar :=
  .of_read (fun _ _ h ↦ CodePoint.char.inj h) readPoint?_jsonChar_append

/-- Inside a JSON string there is no quote that closes it. -/
theorem jsonChar_append_ne_quote (c : Char) (x y : List Char) : jsonChar c ++ x ≠ '"' :: y := by
  intro h
  have hc := readPoint?_jsonChar_append c x
  rw [h] at hc
  cases hc

/-- A JSON string can be told apart from what follows it. -/
theorem jsonString_append_inj {s t : String} {x y : List Char}
    (h : (jsonString s).toList ++ x = (jsonString t).toList ++ y) : s = t ∧ x = y := by
  simp only [jsonString, String.toList_ofList, List.cons_append, List.append_assoc,
    List.cons.injEq, true_and, List.nil_append] at h
  have hend : ∀ c z, ¬∃ rest, jsonChar c ++ z = '"' :: rest := by
    rintro c z ⟨rest, hrest⟩
    exact jsonChar_append_ne_quote c z rest hrest
  obtain ⟨hst, hxy⟩ := isPrefixCode_jsonChar.flatMap_append_inj (fun z ↦ ∃ rest, z = '"' :: rest)
    hend ⟨x, rfl⟩ ⟨y, rfl⟩ h
  exact ⟨String.toList_inj.mp hst, List.tail_eq_of_cons_eq hxy⟩

end Text

/-! ## Pairs -/

namespace CodePoint

open Text

/-- The character that two code points are a surrogate pair of. -/
def pair? : CodePoint → CodePoint → Option Char
  | .surrogate high, .surrogate low =>
    if high.val < 0x400 ∧ 0x400 ≤ low.val then some (pairChar high.val (low.val - 0x400)) else none
  | _, _ => none

/-- Code points with each surrogate pair replaced by its character. -/
def joinPairs : List CodePoint → List CodePoint
  | [] => []
  | [point] => [point]
  | first :: second :: rest =>
    match first.pair? second with
    | some c => .char c :: joinPairs rest
    | none => first :: joinPairs (second :: rest)

private theorem exists_of_pair?_eq_some {first second : CodePoint} {c : Char}
    (h : first.pair? second = some c) :
    ∃ high low : Fin 0x800, first = .surrogate high ∧ second = .surrogate low ∧
      high.val < 0x400 ∧ 0x400 ≤ low.val ∧ pairChar high.val (low.val - 0x400) = c := by
  unfold pair? at h
  split at h
  · next high low =>
    split at h
    · next hpair => exact ⟨high, low, rfl, rfl, hpair.1, hpair.2, Option.some.inj h⟩
    · cases h
  · cases h

theorem escapedUnit?_surrogate (offset : Fin 0x800) (x : List Char) :
    escapedUnit? ((surrogate offset).json ++ x) = some (0xD800 + offset.val, x) :=
  escapedUnit?_jsonUnit (by omega) x

private theorem readPoint?_pair {first second : CodePoint} {c : Char}
    (h : first.pair? second = some c) (x : List Char) :
    readPoint? (first.json ++ (second.json ++ x)) = some (.char c, x) := by
  obtain ⟨high, low, rfl, rfl, hhigh, hlow, rfl⟩ := exists_of_pair?_eq_some h
  have hsecond : (surrogate low).json = jsonUnit (0xDC00 + (low.val - 0x400)) := by
    rw [json, show 0xD800 + low.val = 0xDC00 + (low.val - 0x400) by omega]
  rw [readPoint?_of_unit (escapedUnit?_surrogate high _), hsecond,
    unitPoint_pair hhigh (by omega)]

/-- No escape of a character is the second half of a pair. -/
theorem lowUnit?_jsonChar_append (c : Char) (x : List Char) :
    lowUnit? (jsonChar c ++ x) = none := by
  have hvalid := toNat_lt_or_gt c
  have hunit : ∀ {n : Nat} (y : List Char), n < 0xDC00 ∨ 0xE000 ≤ n → n < 0x10000 →
      lowUnit? (jsonUnit n ++ y) = none := by
    intro n y hn hsmall
    rw [lowUnit?, escapedUnit?_jsonUnit hsmall, Option.bind_some]
    exact if_neg (by omega)
  rw [jsonChar]
  iterate 7 (split; · rfl)
  split
  · rw [lowUnit?, List.singleton_append, escapedUnit?_eq_none ‹_›]
    rfl
  split
  · exact hunit x (by omega) ‹_›
  · rw [List.append_assoc]
    exact hunit _ (by omega) (by omega)

/-- What does not make a pair with what follows it is read by itself. -/
theorem readPoint?_json_append {point : CodePoint} {x : List Char}
    (h : ∀ high : Fin 0x800, point = .surrogate high → high.val < 0x400 → lowUnit? x = none) :
    readPoint? (point.json ++ x) = some (point, x) := by
  cases point with
  | char c => exact readPoint?_jsonChar_append c x
  | surrogate offset =>
    have hlow : (if 0xD800 + offset.val < 0xDC00 then lowUnit? x else none) = none := by
      split
      · exact h offset rfl (by omega)
      · rfl
    rw [readPoint?_of_unit (escapedUnit?_surrogate offset x), unitPoint, if_neg (by omega), hlow]
    simp

private theorem readPoint?_of_pair?_eq_none {first second : CodePoint}
    (h : first.pair? second = none) (x : List Char) :
    readPoint? (first.json ++ (second.json ++ x)) = some (first, second.json ++ x) := by
  refine readPoint?_json_append fun high hfirst hhigh ↦ ?_
  subst hfirst
  cases second with
  | char c => exact lowUnit?_jsonChar_append c x
  | surrogate low =>
    have hlow : ¬0x400 ≤ low.val := by
      intro hlow
      rw [pair?, if_pos ⟨hhigh, hlow⟩] at h
      cases h
    rw [lowUnit?, escapedUnit?_surrogate, Option.bind_some]
    exact if_neg (by omega)

private theorem json_append_ne_quote (point : CodePoint) (x y : List Char) :
    point.json ++ x ≠ '"' :: y := by
  cases point with
  | char c => exact jsonChar_append_ne_quote c x y
  | surrogate offset =>
    intro h
    exact absurd (List.cons.inj h).1 (by decide)

/-- A pair is written like its character. -/
theorem json_append_json {first second : CodePoint} {c : Char}
    (h : first.pair? second = some c) : first.json ++ second.json = (char c).json := by
  obtain ⟨high, low, rfl, rfl, hhigh, hlow, rfl⟩ := exists_of_pair?_eq_some h
  have hvalue := toNat_pairChar hhigh (show low.val - 0x400 < 0x400 by omega)
  generalize pairChar high.val (low.val - 0x400) = c at hvalue ⊢
  have hlarge : ¬c.toNat < 0x10000 := by omega
  have hhalf : 0xD800 + (c.toNat - 0x10000) / 0x400 = 0xD800 + high.val := by omega
  have hrest : 0xDC00 + (c.toNat - 0x10000) % 0x400 = 0xD800 + low.val := by omega
  have hother : ∀ d : Char, d.toNat < 0x10000 → c ≠ d := by
    rintro d hd rfl
    exact hlarge hd
  rw [json, json, json, jsonChar, if_neg (hother _ (by decide)), if_neg (hother _ (by decide)),
    if_neg (hother _ (by decide)), if_neg (hother _ (by decide)), if_neg (hother _ (by decide)),
    if_neg (hother _ (by decide)), if_neg (hother _ (by decide)), if_neg (by omega),
    if_neg hlarge, hhalf, hrest]

private theorem flatMap_json_joinPairs (points : List CodePoint) :
    (joinPairs points).flatMap json = points.flatMap json := by
  fun_induction joinPairs points with
  | case1 => rfl
  | case2 => rfl
  | case3 first second rest c hpair ih =>
    rw [List.flatMap_cons, List.flatMap_cons, List.flatMap_cons, ih, ← List.append_assoc,
      json_append_json hpair]
  | case4 first second rest hpair ih => rw [List.flatMap_cons, ih, ← List.flatMap_cons]

/-- Joining adds a character outside the first plane for each pair, and changes nothing else. -/
theorem joinPairs_eq_self {points : List CodePoint}
    (h : ∀ c, .char c ∈ joinPairs points → c.toNat < 0x10000) : joinPairs points = points := by
  fun_induction joinPairs points with
  | case1 => rfl
  | case2 => rfl
  | case3 first second rest c hpair ih =>
    obtain ⟨high, low, rfl, rfl, hhigh, hlow, rfl⟩ := exists_of_pair?_eq_some hpair
    have hvalue := toNat_pairChar hhigh (show low.val - 0x400 < 0x400 by omega)
    have hsmall := h _ List.mem_cons_self
    omega
  | case4 first second rest hpair ih =>
    rw [ih fun c hc ↦ h c (List.mem_cons_of_mem _ hc)]

/-- Nothing is joined in code points of which no two neighbours are a pair. -/
theorem joinPairs_eq_self_iff {points : List CodePoint} :
    joinPairs points = points ↔
      points.IsChain fun first second ↦ first.pair? second = none := by
  fun_induction joinPairs points with
  | case1 => simp
  | case2 => simp
  | case3 first second rest c hpair ih =>
    obtain ⟨high, low, rfl, rfl, -⟩ := exists_of_pair?_eq_some hpair
    refine iff_of_false (fun h ↦ ?_) (fun h ↦ ?_)
    · cases (List.cons.inj h).1
    · rw [(List.isChain_cons_cons.mp h).1] at hpair
      cases hpair
  | case4 first second rest hpair ih =>
    rw [List.isChain_cons_cons, ← ih, List.cons.injEq]
    simp [hpair]

private theorem mapM_char?_eq_some_iff {points : List CodePoint} {chars : List Char} :
    points.mapM char? = some chars ↔ points = chars.map char := by
  induction points generalizing chars with
  | nil => simp [eq_comm]
  | cons point rest ih =>
    cases point with
    | surrogate offset => cases chars <;> simp [char?]
    | char c =>
      have hcons : (char c :: rest).mapM char? = (rest.mapM char?).map (c :: ·) := by
        rw [List.mapM_cons]
        cases rest.mapM char? <;> rfl
      rw [hcons, Option.map_eq_some_iff]
      simp only [ih]
      cases chars with
      | nil => simp
      | cons d others => simp [and_comm]

private theorem joinPairs_map_char (text : List Char) :
    joinPairs (text.map char) = text.map char := by
  rw [joinPairs_eq_self_iff]
  induction text with
  | nil => exact .nil
  | cons c rest ih =>
    cases rest with
    | nil => exact .singleton _
    | cons d rest => exact List.isChain_cons_cons.mpr ⟨rfl, ih⟩

end CodePoint

/-! ## Strings -/

namespace Text

private theorem length_of_lowUnit? {text rest : List Char} {low : Nat}
    (h : lowUnit? text = some (low, rest)) : rest.length < text.length := by
  obtain ⟨⟨unit, more⟩, hunit, h⟩ := Option.bind_eq_some_iff.mp h
  dsimp only at h
  split at h
  · obtain ⟨-, rfl⟩ := Prod.mk.inj (Option.some.inj h)
    exact length_of_escapedUnit? hunit
  · cases h

private theorem length_unitPoint_le (unit : Nat) (rest : List Char) :
    (unitPoint unit rest).2.length ≤ rest.length := by
  unfold unitPoint
  split
  · exact Nat.le_refl _
  · split
    · next low more hlow =>
      split at hlow
      · exact (length_of_lowUnit? hlow).le
      · cases hlow
    · exact Nat.le_refl _

private theorem length_of_readPoint? {text rest : List Char} {point : CodePoint}
    (h : readPoint? text = some (point, rest)) : rest.length < text.length := by
  unfold readPoint? at h
  split at h
  · next unit more hunit =>
    have hrest := length_unitPoint_le unit more
    rw [Option.some.inj h] at hrest
    exact Nat.lt_of_le_of_lt hrest (length_of_escapedUnit? hunit)
  · obtain ⟨d, -, h⟩ := Option.map_eq_some_iff.mp h
    cases h
    simp only [List.length_cons]
    omega
  · split at h
    · cases h
    · cases h
      exact Nat.lt_succ_self _
  · cases h

/-- The code points of a JSON string behind its opening quote, and what follows the closing one. -/
def stringBody? (text : List Char) : Option (List CodePoint × List Char) :=
  if text.head? = some '"' then some ([], text.tail)
  else
    match _h : readPoint? text with
    | none => none
    | some (point, rest) => (stringBody? rest).map fun body ↦ (point :: body.1, body.2)
termination_by text.length
decreasing_by exact length_of_readPoint? _h

private theorem stringBody?_of_readPoint? {text rest : List Char} {point : CodePoint}
    (hquote : ∀ more, text ≠ '"' :: more) (h : readPoint? text = some (point, rest)) :
    stringBody? text = (stringBody? rest).map fun body ↦ (point :: body.1, body.2) := by
  have hhead : text.head? ≠ some '"' := by
    intro hhead
    obtain ⟨more, hmore⟩ := List.head?_eq_some_iff.mp hhead
    exact hquote more hmore
  rw [stringBody?, if_neg hhead]
  split
  · next hnone =>
    rw [h] at hnone
    cases hnone
  · next hsome =>
    rw [h] at hsome
    cases hsome
    rfl

theorem length_of_stringBody? {text rest : List Char} {body : List CodePoint}
    (h : stringBody? text = some (body, rest)) : rest.length ≤ text.length := by
  fun_induction stringBody? text generalizing body with
  | case1 text hquote =>
    cases h
    simp
  | case2 => cases h
  | case3 text hquote point more hpoint ih =>
    obtain ⟨⟨body, others⟩, hbody, h⟩ := Option.map_eq_some_iff.mp h
    cases h
    exact (ih hbody).trans (length_of_readPoint? hpoint).le

/-- A string is read up to its closing quote, and its pairs are joined on the way. -/
theorem stringBody?_append (points : List CodePoint) (x : List Char) :
    stringBody? (points.flatMap CodePoint.json ++ '"' :: x) =
      some (CodePoint.joinPairs points, x) := by
  fun_induction CodePoint.joinPairs points with
  | case1 =>
    rw [stringBody?]
    rfl
  | case2 point =>
    have hread : readPoint? (point.json ++ '"' :: x) = some (point, '"' :: x) :=
      CodePoint.readPoint?_json_append fun _ _ _ ↦ rfl
    rw [List.flatMap_singleton,
      stringBody?_of_readPoint? (CodePoint.json_append_ne_quote point _) hread, stringBody?]
    rfl
  | case3 first second rest c hpair ih =>
    rw [List.flatMap_cons, List.flatMap_cons, List.append_assoc, List.append_assoc,
      stringBody?_of_readPoint? (CodePoint.json_append_ne_quote first _)
        (CodePoint.readPoint?_pair hpair _), ih]
    rfl
  | case4 first second rest hpair ih =>
    rw [List.flatMap_cons] at ih
    rw [List.flatMap_cons, List.flatMap_cons, List.append_assoc, List.append_assoc,
      stringBody?_of_readPoint? (CodePoint.json_append_ne_quote first _)
        (CodePoint.readPoint?_of_pair?_eq_none hpair _), ← List.append_assoc, ih]
    rfl

end Text

/-! ## Keys -/

namespace PathKey

/-- The key with each surrogate pair replaced by its character. -/
def joined (key : PathKey) : PathKey := ⟨CodePoint.joinPairs key.points⟩

/-- Two neighbours in the key are a surrogate pair. -/
def HoldsPair (key : PathKey) : Prop :=
  ¬key.points.IsChain fun first second ↦ first.pair? second = none

theorem joined_eq_self_iff {key : PathKey} : key.joined = key ↔ ¬key.HoldsPair := by
  rw [HoldsPair, not_not, ← CodePoint.joinPairs_eq_self_iff, joined, PathKey.ext_iff]

theorem joined_ofText (text : String) : (ofText text).joined = ofText text := by
  rw [joined, ofText, CodePoint.joinPairs_map_char]

theorem json_ofText (text : String) : (ofText text).json = Text.jsonString text := by
  rw [json, ofText, Text.jsonString, List.flatMap_map]
  rfl

theorem not_holdsPair_ofText (text : String) : ¬(ofText text).HoldsPair :=
  joined_eq_self_iff.mp (joined_ofText text)

theorem json_joined (key : PathKey) : key.joined.json = key.json := by
  rw [json, json, joined, CodePoint.flatMap_json_joinPairs]

/-- The JSON string of a key can be told apart from what follows it, and tells the key but for its
pairs. -/
theorem json_append_inj {key other : PathKey} {x y : List Char}
    (h : key.json.toList ++ x = other.json.toList ++ y) : key.joined = other.joined ∧ x = y := by
  simp only [json, String.toList_ofList, List.cons_append, List.append_assoc, List.cons.injEq,
    true_and, List.nil_append] at h
  have hread : some (CodePoint.joinPairs key.points, x) =
      some (CodePoint.joinPairs other.points, y) := by
    rw [← Text.stringBody?_append, ← Text.stringBody?_append, h]
  obtain ⟨hpoints, hrest⟩ := Prod.mk.inj (Option.some.inj hread)
  exact ⟨PathKey.ext hpoints, hrest⟩

/-- **A key is told by its JSON string, but for its surrogate pairs.** -/
theorem json_eq_iff {key other : PathKey} : key.json = other.json ↔ key.joined = other.joined := by
  constructor
  · intro h
    exact (json_append_inj (x := []) (y := []) (by rw [h])).1
  · intro h
    rw [← json_joined key, h, json_joined]

theorem text?_eq_some_iff {key : PathKey} {text : String} :
    key.text? = some text ↔ key = ofText text := by
  rw [text?, Option.map_eq_some_iff, PathKey.ext_iff, ofText]
  constructor
  · rintro ⟨chars, hchars, rfl⟩
    rw [CodePoint.mapM_char?_eq_some_iff.mp hchars, String.toList_ofList]
  · intro h
    exact ⟨text.toList, CodePoint.mapM_char?_eq_some_iff.mpr h, String.ofList_toList⟩

theorem text?_ofText (text : String) : (ofText text).text? = some text :=
  text?_eq_some_iff.mpr rfl

theorem ofText_injective : Function.Injective ofText := by
  intro text other h
  have hread : (ofText text).text? = (ofText other).text? := by rw [h]
  rwa [text?_ofText, text?_ofText, Option.some_inj] at hread

end PathKey

end Runbook
