import Runbook.Proofs.Resolution

/-!
# Reading query paths

A query path is read by the grammar of the query tool. Its tokens are dots, brackets, names,
integers and string literals, and white space between tokens means nothing. A literal is a text: its
surrogate pairs are joined, and one with a surrogate that is no part of a pair is none. A path is a
dot alone, or steps one after another: a dot with a name, or an integer or a literal in brackets; in
front of a bracket that begins the path there is a dot as well.

Main statement: what is read back from the query path of a value is the path of the value, unless a
key is a name with a line feed behind it or holds a surrogate. A name with a line feed is written
without quotes, and its line feed is taken for white space; a surrogate is joined or cannot be read.
-/

namespace Runbook

namespace Query

open Runbook.Text

/-! ## Tokens -/

/-- A part of a query path. -/
inductive Token where
  | dot
  | opening
  | closing
  | name (text : String)
  | integer (value : Int)
  | literal (text : String)
deriving DecidableEq, Repr

/-- White space between tokens. -/
def isSpace (c : Char) : Bool := c == ' ' || c == '\t' || c == '\n' || c == '\r'

def isNameStart (c : Char) : Bool := c.isAlpha || c == '_'

/-- The token at the start of a text, and what follows it. Names and integers are as long as they
can be. -/
def token? : List Char → Option (Token × List Char)
  | [] => none
  | c :: rest =>
    if c = '.' then some (.dot, rest)
    else if c = '[' then some (.opening, rest)
    else if c = ']' then some (.closing, rest)
    else if c = '"' then do
      let (points, more) ← stringBody? rest
      let text ← PathKey.text? ⟨points⟩
      return (.literal text, more)
    else if isNameStart c then
      some (.name (String.ofList (c :: rest.takeWhile isBareChar)), rest.dropWhile isBareChar)
    else if c.isDigit || c == '-' then
      (spelledInt? (c :: rest.takeWhile Char.isDigit)).map fun n ↦
        (.integer n, rest.dropWhile Char.isDigit)
    else none

private theorem length_of_token? {text rest : List Char} {token : Token}
    (h : token? text = some (token, rest)) : rest.length < text.length := by
  cases text with
  | nil => cases h
  | cons c more =>
    have hdrop : ∀ p : Char → Bool, (more.dropWhile p).length < (c :: more).length := by
      intro p
      exact Nat.lt_succ_of_le (List.dropWhile_sublist p).length_le
    rw [token?] at h
    iterate 3 (split at h; · cases h; exact Nat.lt_succ_self _)
    split at h
    · obtain ⟨⟨points, others⟩, hbody, h⟩ := Option.bind_eq_some_iff.mp h
      obtain ⟨literal, -, h⟩ := Option.bind_eq_some_iff.mp h
      cases h
      exact Nat.lt_succ_of_le (length_of_stringBody? hbody)
    split at h
    · cases h
      exact hdrop _
    split at h
    · obtain ⟨n, -, h⟩ := Option.map_eq_some_iff.mp h
      cases h
      exact hdrop _
    · cases h

def tokens? (text : List Char) : Option (List Token) :=
  match text with
  | [] => some []
  | c :: rest =>
    if isSpace c then tokens? rest
    else
      match _h : token? (c :: rest) with
      | none => none
      | some (token, more) => (tokens? more).map (token :: ·)
termination_by text.length
decreasing_by
  · exact Nat.lt_succ_self _
  · exact length_of_token? _h

/-! ## Paths -/

/-- The steps that tokens make. -/
def steps? : List Token → Option (List Segment)
  | [] => some []
  | .dot :: .name text :: rest => (steps? rest).map (.key text :: ·)
  | .opening :: .integer n :: .closing :: rest => (steps? rest).map (.index n :: ·)
  | .opening :: .literal text :: .closing :: rest => (steps? rest).map (.key text :: ·)
  | _ => none

/-- The path that tokens make: a dot alone, or steps, with a dot in front of a bracket that comes
first. -/
def path? : List Token → Option (List Segment)
  | [.dot] => some []
  | .dot :: .opening :: rest => steps? (.opening :: rest)
  | .dot :: rest => steps? (.dot :: rest)
  | _ => none

/-- The path that a text selects. -/
def read? (text : String) : Option (List Segment) := (tokens? text.toList).bind path?

end Query

/-! ## Names -/

/-- A name of ASCII letters, digits and underscores that does not start with a digit. -/
def isPlainName : List Char → Bool
  | [] => false
  | c :: rest => Query.isNameStart c && rest.all isBareChar

private theorem spellsBareName_iff {name : List Char} :
    spellsBareName name = true ↔
      isPlainName name = true ∨ ∃ stem, isPlainName stem = true ∧ name = stem ++ ['\n'] := by
  cases name with
  | nil => simp [spellsBareName, isPlainName]
  | cons c rest =>
    rw [spellsBareName, isPlainName, ← Query.isNameStart, Bool.and_eq_true, Bool.and_eq_true,
      Bool.or_eq_true]
    constructor
    · rintro ⟨hstart, hall | hfeed⟩
      · exact .inl ⟨hstart, hall⟩
      · right
        split at hfeed
        · next hlast =>
          refine ⟨c :: rest.dropLast, ?_, ?_⟩
          · rw [isPlainName, hstart, hfeed]
            rfl
          · rw [List.cons_append, List.dropLast_append_getLast? '\n' hlast]
        · cases hfeed
    · rintro (⟨hstart, hall⟩ | ⟨stem, hstem, hname⟩)
      · exact ⟨hstart, .inl hall⟩
      · cases stem with
        | nil => cases hstem
        | cons d stem =>
          obtain ⟨rfl, rfl⟩ := List.cons.inj hname
          rw [isPlainName, Bool.and_eq_true] at hstem
          refine ⟨hstem.1, .inr ?_⟩
          simpa using hstem.2

theorem all_isBareChar_of_isPlainName {name : List Char} (h : isPlainName name = true) :
    name.all isBareChar = true := by
  cases name with
  | nil => cases h
  | cons c rest =>
    rw [isPlainName, Query.isNameStart, Bool.and_eq_true] at h
    rw [List.all_cons, h.2, Bool.and_true, isBareChar, Char.isAlphanum]
    grind

/-- A plain name holds no line feed. -/
theorem not_isPlainName_feed (stem : List Char) : isPlainName (stem ++ ['\n']) = false := by
  rw [Bool.eq_false_iff]
  intro h
  have hall := all_isBareChar_of_isPlainName h
  rw [List.all_append, Bool.and_eq_true] at hall
  exact absurd hall.2 (by decide)

/-- A run of characters of a class ends where the class does. -/
theorem Text.span_append {p : Char → Bool} {s x : List Char} (hs : s.all p = true)
    (hx : x.head?.any p = false) :
    (s ++ x).takeWhile p = s ∧ (s ++ x).dropWhile p = x := by
  have hall : ∀ c ∈ s, p c = true := List.all_eq_true.mp hs
  rw [List.takeWhile_append_of_pos hall, List.dropWhile_append_of_pos hall]
  cases x with
  | nil => simp
  | cons c x =>
    have hc : p c = false := hx
    simp [hc]

/-- The key is a name of ASCII letters, digits and underscores. -/
def PathKey.isPlainName (key : PathKey) : Bool :=
  key.text?.any fun text ↦ Runbook.isPlainName text.toList

namespace Segment

/-- A key that is a plain name but for a line feed behind it. -/
def IsLoose (segment : Segment) : Prop :=
  ∃ stem : String, isPlainName stem.toList = true ∧ segment = .key (stem ++ "\n" : String)

/-- A key that is no text, because there is a surrogate in it. -/
def HoldsSurrogate (segment : Segment) : Prop := ∃ name, segment = .key name ∧ name.text? = none

/-- The step that is read back, if one can be read. The line feed behind a loose key is lost, and
surrogate pairs are joined. -/
def settled? : Segment → Option Segment
  | .key name =>
    match name.bareName? with
    | some text => some (.key (String.ofList (text.toList.takeWhile isBareChar)))
    | none => name.joined.text?.map fun text : String ↦ .key text
  | .index position => some (.index position)

private theorem isLoose_key_iff {name : String} :
    (Segment.key name).IsLoose ↔
      ∃ stem, isPlainName stem = true ∧ name.toList = stem ++ ['\n'] := by
  constructor
  · rintro ⟨stem, hstem, hname⟩
    obtain rfl := PathKey.ofText_injective (Segment.key.inj hname)
    exact ⟨stem.toList, hstem, String.toList_append⟩
  · rintro ⟨stem, hstem, hname⟩
    refine ⟨String.ofList stem, by rwa [String.toList_ofList], ?_⟩
    rw [Segment.key.injEq, PathKey.ofText_injective.eq_iff, ← String.toList_inj,
      String.toList_append, String.toList_ofList, hname]
    rfl

/-- A name is written without quotes if it is plain or loose. -/
theorem spellsBareName_iff_isLoose {name : String} :
    spellsBareName name.toList = true ↔
      isPlainName name.toList = true ∨ (Segment.key name).IsLoose := by
  rw [spellsBareName_iff, isLoose_key_iff]

private theorem not_isLoose_of_text?_eq_none {name : PathKey} (h : name.text? = none) :
    ¬(Segment.key name).IsLoose := by
  rintro ⟨stem, -, hname⟩
  rw [Segment.key.inj hname, PathKey.text?_ofText] at h
  cases h

private theorem bareName?_ofText (name : String) :
    (PathKey.ofText name).bareName? =
      if spellsBareName name.toList = true then some name else none := by
  rw [PathKey.bareName?, PathKey.text?_ofText, Option.filter_some]

/-- A text comes back as it is unless it is loose. -/
theorem settled?_ofText_eq_self_iff (name : String) :
    (Segment.key name).settled? = some (.key name) ↔ ¬(Segment.key name).IsLoose := by
  rw [settled?, bareName?_ofText]
  by_cases hplain : isPlainName name.toList = true
  · have hall := all_isBareChar_of_isPlainName hplain
    rw [if_pos (spellsBareName_iff.mpr (.inl hplain))]
    dsimp only
    have htake := (Text.span_append hall (x := []) rfl).1
    rw [List.append_nil] at htake
    rw [htake, String.ofList_toList]
    refine iff_of_true rfl fun hloose ↦ ?_
    obtain ⟨stem, -, hname⟩ := isLoose_key_iff.mp hloose
    rw [hname, not_isPlainName_feed] at hplain
    exact absurd hplain Bool.false_ne_true
  · by_cases hloose : (Segment.key name).IsLoose
    · obtain ⟨stem, hstem, hname⟩ := isLoose_key_iff.mp hloose
      have hall := all_isBareChar_of_isPlainName hstem
      rw [if_pos (spellsBareName_iff_isLoose.mpr (.inr hloose))]
      dsimp only
      rw [Option.some_inj, Segment.key.injEq, PathKey.ofText_injective.eq_iff,
        ← String.toList_inj, String.toList_ofList, hname,
        (Text.span_append hall (x := ['\n']) rfl).1]
      exact iff_of_false (by simp) (not_not_intro hloose)
    · rw [if_neg fun h ↦ (spellsBareName_iff_isLoose.mp h).elim hplain hloose]
      refine iff_of_true ?_ hloose
      dsimp only
      rw [PathKey.joined_ofText, PathKey.text?_ofText, Option.map_some]

/-- A step comes back as it is unless it is loose or holds a surrogate. -/
theorem settled?_eq_self_iff (segment : Segment) :
    segment.settled? = some segment ↔ ¬segment.IsLoose ∧ ¬segment.HoldsSurrogate := by
  cases segment with
  | index n =>
    refine iff_of_true rfl ⟨?_, ?_⟩
    · rintro ⟨stem, -, h⟩
      cases h
    · rintro ⟨name, h, -⟩
      cases h
  | key name =>
    cases htext : name.text? with
    | some text =>
      obtain rfl := PathKey.text?_eq_some_iff.mp htext
      have hwhole : ¬(Segment.key text).HoldsSurrogate := by
        rintro ⟨other, hother, hnone⟩
        rw [← Segment.key.inj hother, PathKey.text?_ofText] at hnone
        cases hnone
      rw [settled?_ofText_eq_self_iff, and_iff_left hwhole]
    | none =>
      refine iff_of_false (fun h ↦ ?_) fun h ↦ h.2 ⟨name, rfl, htext⟩
      -- What is read back is a text, and the key is none.
      have hread : ∃ text : String, name = text := by
        rw [settled?] at h
        split at h
        · exact ⟨_, (Segment.key.inj (Option.some.inj h)).symm⟩
        · obtain ⟨text, -, hkey⟩ := Option.map_eq_some_iff.mp h
          exact ⟨text, (Segment.key.inj hkey).symm⟩
      obtain ⟨text, rfl⟩ := hread
      rw [PathKey.text?_ofText] at htext
      cases htext

/-- A key is quoted unless it is plain or loose. -/
theorem queryText_eq_quoted_iff (name : PathKey) :
    (Segment.key name).queryText = "[" ++ name.json ++ "]" ↔
      name.isPlainName = false ∧ ¬(Segment.key name).IsLoose := by
  have hbare : name.bareName? = none ↔
      name.isPlainName = false ∧ ¬(Segment.key name).IsLoose := by
    cases htext : name.text? with
    | none =>
      rw [PathKey.bareName?, PathKey.isPlainName, htext]
      exact iff_of_true rfl ⟨rfl, not_isLoose_of_text?_eq_none htext⟩
    | some text =>
      obtain rfl := PathKey.text?_eq_some_iff.mp htext
      rw [bareName?_ofText, PathKey.isPlainName, PathKey.text?_ofText, Option.any_some,
        ← Bool.not_eq_true (isPlainName _), ← not_or, ← spellsBareName_iff_isLoose]
      split
      · next h => exact iff_of_false (Option.some_ne_none _) (not_not_intro h)
      · next h => exact iff_of_true rfl h
  rw [← hbare, queryText]
  cases hname : name.bareName? with
  | some text =>
    refine iff_of_false (fun heq ↦ ?_) (Option.some_ne_none _)
    have hchars := congrArg String.toList heq
    simp only [String.toList_append, String.reduceToList, List.cons_append] at hchars
    exact absurd (List.cons.inj hchars).1 (by decide)
  | none => exact iff_of_true rfl rfl

open Query in
/-- The tokens of a step, unless it has a literal that is no text. -/
def tokens? : Segment → Option (List Token)
  | .key name =>
    match name.bareName? with
    | some text => some [.dot, .name (String.ofList (text.toList.takeWhile isBareChar))]
    | none => name.joined.text?.map fun text ↦ [.opening, .literal text, .closing]
  | .index position => some [.opening, .integer position, .closing]

end Segment

namespace Query

/-- No token begins with white space. -/
theorem isSpace_of_token? {c : Char} {rest more : List Char} {token : Token}
    (h : token? (c :: rest) = some (token, more)) : isSpace c = false := by
  rw [Bool.eq_false_iff]
  intro hspace
  simp only [isSpace, Bool.or_eq_true, beq_iff_eq] at hspace
  rcases hspace with ((rfl | rfl) | rfl) | rfl <;> cases h

private theorem tokens?_of_token? {text rest : List Char} {token : Token}
    (h : token? text = some (token, rest)) : tokens? text = (tokens? rest).map (token :: ·) := by
  cases text with
  | nil => cases h
  | cons c more =>
    rw [tokens?, if_neg (by simp [isSpace_of_token? h])]
    split
    · next hnone =>
      rw [h] at hnone
      cases hnone
    · next hsome =>
      rw [h] at hsome
      cases hsome
      rfl

private theorem tokens?_dot (x : List Char) : tokens? ('.' :: x) = (tokens? x).map (.dot :: ·) :=
  tokens?_of_token? rfl

private theorem tokens?_opening (x : List Char) :
    tokens? ('[' :: x) = (tokens? x).map (.opening :: ·) :=
  tokens?_of_token? rfl

private theorem tokens?_closing (x : List Char) :
    tokens? (']' :: x) = (tokens? x).map (.closing :: ·) :=
  tokens?_of_token? rfl

/-- A plain name is read as a whole. -/
theorem token?_name {stem x : List Char} (h : isPlainName stem = true)
    (hx : x.head?.any isBareChar = false) :
    token? (stem ++ x) = some (.name (String.ofList stem), x) := by
  cases stem with
  | nil => cases h
  | cons c rest =>
    rw [isPlainName, Bool.and_eq_true] at h
    have hother : ∀ d, isNameStart d = false → c ≠ d := by
      rintro d hd rfl
      exact absurd (hd.symm.trans h.1) Bool.false_ne_true
    obtain ⟨htake, hdrop⟩ := Text.span_append h.2 hx
    rw [List.cons_append, token?, if_neg (hother _ rfl), if_neg (hother _ rfl),
      if_neg (hother _ rfl), if_neg (hother _ rfl), if_pos h.1, htake, hdrop]

/-- An integer is written with a sign or a digit in front, and digits behind it. -/
theorem exists_digits_of_repr (n : Int) :
    ∃ c digits, n.repr.toList = c :: digits ∧ (c.isDigit || c == '-') = true ∧
      digits.all Char.isDigit = true := by
  have hdigits : ∀ m : Nat, m.repr.toList.all Char.isDigit = true := by
    intro m
    rw [Nat.repr_eq_ofList_toDigits, String.toList_ofList, List.all_eq_true]
    intro c hc
    exact Nat.isDigit_of_mem_toDigits (by decide) (by decide) hc
  rw [Int.repr_eq_if]
  split
  · have hall := hdigits n.toNat
    cases hrepr : n.toNat.repr.toList with
    | nil =>
      rw [Nat.repr_eq_ofList_toDigits, String.toList_ofList] at hrepr
      exact absurd hrepr Nat.toDigits_ne_nil
    | cons c digits =>
      rw [hrepr, List.all_cons, Bool.and_eq_true] at hall
      exact ⟨c, digits, rfl, by rw [hall.1, Bool.true_or], hall.2⟩
  · exact ⟨'-', _, String.toList_append, rfl, hdigits _⟩

private theorem token?_repr (n : Int) (x : List Char) :
    token? (n.repr.toList ++ ']' :: x) = some (.integer n, ']' :: x) := by
  obtain ⟨c, digits, hn, hc, hdigits⟩ := exists_digits_of_repr n
  have hother : ∀ d, (d.isDigit || d == '-') = false → c ≠ d := by
    rintro d hd rfl
    exact absurd (hd.symm.trans hc) Bool.false_ne_true
  have hstart : isNameStart c = false := by
    rw [Bool.eq_false_iff]
    intro hstart
    delta isNameStart Char.isAlpha Char.isUpper Char.isLower at hstart
    delta Char.isDigit at hc
    simp only [Bool.or_eq_true, Bool.and_eq_true, beq_iff_eq, decide_eq_true_eq,
      UInt32.le_iff_toNat_le, Char.toNat_val, Char.reduceVal, UInt32.reduceToNat, ge_iff_le]
      at hstart hc
    rcases hc with hc | rfl
    · rcases hstart with hstart | rfl
      · omega
      · exact absurd hc (by decide)
    · exact absurd hstart (by decide)
  obtain ⟨htake, hdrop⟩ := Text.span_append hdigits (x := ']' :: x) rfl
  rw [hn, List.cons_append, token?, if_neg (hother _ rfl), if_neg (hother _ rfl),
    if_neg (hother _ rfl), if_neg (hother _ rfl), if_neg (by simp [hstart]), if_pos hc, htake,
    hdrop, ← hn, spelledInt?_repr]
  rfl

/-- A literal is read with its pairs joined, if it is a text then. -/
theorem token?_literal (name : PathKey) (x : List Char) :
    token? (name.json.toList ++ x) = name.joined.text?.map fun text ↦ (.literal text, x) := by
  have htext : name.json.toList ++ x =
      '"' :: (name.points.flatMap CodePoint.json ++ '"' :: x) := by
    simp [PathKey.json]
  rw [htext]
  change (Text.stringBody? _).bind _ = _
  rw [Text.stringBody?_append, Option.bind_some]
  change (name.joined.text?.bind _) = _
  cases name.joined.text? <;> rfl

private theorem tokens?_of_token?_eq_none {c : Char} {rest : List Char} (hspace : isSpace c = false)
    (h : token? (c :: rest) = none) : tokens? (c :: rest) = none := by
  rw [tokens?, if_neg (by simp [hspace])]
  split
  · rfl
  · next hsome =>
    rw [h] at hsome
    cases hsome

private theorem tokens?_bareName {name x : List Char} (hname : spellsBareName name = true)
    (hx : x.head?.any isBareChar = false) :
    tokens? (name ++ x) =
      (tokens? x).map (.name (String.ofList (name.takeWhile isBareChar)) :: ·) := by
  rcases spellsBareName_iff.mp hname with hplain | ⟨stem, hstem, rfl⟩
  · have htake := (Text.span_append (all_isBareChar_of_isPlainName hplain) (x := []) rfl).1
    rw [List.append_nil] at htake
    rw [tokens?_of_token? (token?_name hplain hx), htake]
  · -- The line feed behind the name is white space to the reader.
    have hfeed : tokens? ('\n' :: x) = tokens? x := by
      rw [tokens?, if_pos (by decide)]
    have htake := (Text.span_append (all_isBareChar_of_isPlainName hstem) (x := ['\n']) rfl).1
    rw [List.append_assoc, List.singleton_append,
      tokens?_of_token? (token?_name hstem (x := '\n' :: x) rfl), hfeed, htake]

private theorem tokens?_literal (name : PathKey) (x : List Char) :
    tokens? (name.json.toList ++ x) =
      name.joined.text?.bind fun text ↦ (tokens? x).map (.literal text :: ·) := by
  have hliteral := token?_literal name x
  cases hread : name.joined.text? with
  | some text =>
    rw [hread] at hliteral
    exact tokens?_of_token? hliteral
  | none =>
    rw [hread, PathKey.json, String.toList_ofList, List.cons_append] at hliteral
    rw [PathKey.json, String.toList_ofList, List.cons_append]
    exact tokens?_of_token?_eq_none (by decide) hliteral

/-- A step is read as its tokens, whatever follows that does not go on with a name. -/
theorem tokens?_queryText (segment : Segment) {x : List Char}
    (hx : x.head?.any isBareChar = false) :
    tokens? (segment.queryText.toList ++ x) =
      segment.tokens?.bind fun first ↦ (tokens? x).map (first ++ ·) := by
  cases segment with
  | index n =>
    have htext : (Segment.index n).queryText.toList ++ x = '[' :: (n.repr.toList ++ ']' :: x) := by
      simp [Segment.queryText]
    rw [htext, tokens?_opening, tokens?_of_token? (token?_repr n x), tokens?_closing,
      Option.map_map, Option.map_map]
    rfl
  | key name =>
    rw [Segment.tokens?, Segment.queryText]
    cases hbare : name.bareName? with
    | some text =>
      have htext : ("." ++ text).toList ++ x = '.' :: (text.toList ++ x) := by simp
      dsimp only
      rw [htext, tokens?_dot, tokens?_bareName (PathKey.bareName?_eq_some_iff.mp hbare).2 hx,
        Option.map_map, Option.bind_some]
      rfl
    | none =>
      have htext : ("[" ++ name.json ++ "]").toList ++ x =
          '[' :: (name.json.toList ++ ']' :: x) := by
        simp
      dsimp only
      rw [htext, tokens?_opening, tokens?_literal, tokens?_closing]
      cases name.joined.text? with
      | some text =>
        rw [Option.bind_some, Option.map_map, Option.map_map]
        rfl
      | none => rfl

private theorem tokens?_pathChars (path : List Segment) :
    tokens? (Segment.pathChars path) = (path.mapM Segment.tokens?).map List.flatten := by
  induction path with
  | nil =>
    rw [Segment.pathChars, List.flatMap_nil, tokens?]
    rfl
  | cons segment rest ih =>
    have hhead : (Segment.pathChars rest).head?.any isBareChar = false := by
      cases rest with
      | nil => rfl
      | cons s rest => rcases Segment.head?_pathChars_cons s rest with h | h <;> rw [h] <;> rfl
    rw [Segment.pathChars_cons, tokens?_queryText segment hhead, ih, List.mapM_cons]
    cases segment.tokens? with
    | none => rfl
    | some first => cases rest.mapM Segment.tokens? <;> rfl

/-- A step has tokens exactly if it can be read back, and they are read as the step. -/
theorem tokens?_cases (segment : Segment) :
    (segment.tokens? = none ∧ segment.settled? = none) ∨
      ∃ tokens step, segment.tokens? = some tokens ∧ segment.settled? = some step ∧
        ∀ rest, steps? (tokens ++ rest) = (steps? rest).map (step :: ·) := by
  cases segment with
  | index n => exact .inr ⟨_, _, rfl, rfl, fun _ ↦ rfl⟩
  | key name =>
    rw [Segment.tokens?, Segment.settled?]
    cases name.bareName? with
    | some text => exact .inr ⟨_, _, rfl, rfl, fun _ ↦ rfl⟩
    | none =>
      cases name.joined.text? with
      | none => exact .inl ⟨rfl, rfl⟩
      | some text => exact .inr ⟨_, _, rfl, rfl, fun _ ↦ rfl⟩

/-- The tokens of a path are read as the steps that can be read back. -/
theorem steps?_tokens (path : List Segment) :
    ((path.mapM Segment.tokens?).bind fun tokens ↦ steps? tokens.flatten) =
      path.mapM Segment.settled? := by
  induction path with
  | nil => rfl
  | cons segment rest ih =>
    rw [List.mapM_cons, List.mapM_cons, ← ih]
    rcases tokens?_cases segment with ⟨htokens, hsettled⟩ | ⟨tokens, step, htokens, hsettled, hread⟩
    · rw [htokens, hsettled]
      rfl
    · rw [htokens, hsettled]
      cases rest.mapM Segment.tokens? with
      | none => rfl
      | some others =>
        change steps? (tokens ++ others.flatten) = _
        rw [hread]
        cases hrest : steps? others.flatten <;> simp [hrest]

/-- A step written with a dot is a dot and a name, and any other opens a bracket. -/
theorem head?_tokens? (segment : Segment) (rest : List Segment) {tokens : List Token}
    (h : segment.tokens? = some tokens) :
    (∃ name, tokens = [.dot, .name name] ∧
        (Segment.pathChars (segment :: rest)).head? = some '.') ∨
      ∃ more, tokens = .opening :: more ∧
        (Segment.pathChars (segment :: rest)).head? = some '[' := by
  rw [Segment.pathChars_cons]
  cases segment with
  | index n =>
    cases h
    exact .inr ⟨_, rfl, by simp [Segment.queryText]⟩
  | key name =>
    rw [Segment.tokens?] at h
    rw [Segment.queryText]
    cases hbare : name.bareName? with
    | some text =>
      rw [hbare] at h
      cases h
      exact .inl ⟨_, rfl, by simp⟩
    | none =>
      rw [hbare] at h
      obtain ⟨text, -, rfl⟩ := Option.map_eq_some_iff.mp h
      exact .inr ⟨_, rfl, by simp⟩

end Query

namespace Staged

/-- Reading the path of a value gives its steps back, but for the line feeds behind loose keys and
for surrogates. -/
theorem read?_queryPath (value : Staged) :
    Query.read? value.queryPath = value.path.mapM Segment.settled? := by
  have htokens := Query.tokens?_pathChars value.path
  have hsteps := Query.steps?_tokens value.path
  by_cases hpath : value.path = []
  · have hempty : Query.tokens? ['.'] = some [.dot] := by
      rw [Query.tokens?_dot, Query.tokens?]
      rfl
    have hdot : value.queryPath.toList = ['.'] := by
      rw [queryPath, hpath]
      rfl
    rw [Query.read?, hdot, hempty, hpath]
    rfl
  · rw [Query.read?, toList_queryPath hpath, ← hsteps]
    cases hparts : value.path.mapM Segment.tokens? with
    | none =>
      rw [hparts] at htokens
      split
      · rw [htokens]
        rfl
      · rw [Query.tokens?_dot, htokens]
        rfl
    | some parts =>
      obtain ⟨first, rest, hcons⟩ := List.exists_cons_of_ne_nil hpath
      rw [hparts] at htokens
      rw [hcons] at htokens hparts ⊢
      rw [List.mapM_cons] at hparts
      obtain ⟨tokens, hfirst, hparts⟩ := Option.bind_eq_some_iff.mp hparts
      obtain ⟨others, -, hparts⟩ := Option.bind_eq_some_iff.mp hparts
      cases hparts
      rcases Query.head?_tokens? first rest hfirst with ⟨name, rfl, hhead⟩ | ⟨more, rfl, hhead⟩
      · rw [if_pos hhead, htokens]
        rfl
      · rw [if_neg (by simp [hhead]), Query.tokens?_dot, htokens]
        rfl

/-- **A query path selects the staged path, unless a key is loose or holds a surrogate.** Reading
the path of a value gives its steps back with the line feeds behind loose keys taken off and
surrogate pairs joined, and nothing if a surrogate is left. So the steps come back as they are if
and only if no key is loose and all keys are texts. The values without loose keys are those whose
keys are all quoted but for the plain names. -/
theorem read?_queryPath_eq_some_path_iff (value : Staged) :
    Query.read? value.queryPath = value.path.mapM Segment.settled? ∧
    (Query.read? value.queryPath = some value.path ↔
      ∀ step ∈ value.path, ¬step.IsLoose ∧ ¬step.HoldsSurrogate) ∧
    ((∀ name, .key name ∈ value.path → name.isPlainName = false →
        (Segment.key name).queryText = "[" ++ name.json ++ "]") ↔
      ∀ step ∈ value.path, ¬step.IsLoose) := by
  refine ⟨read?_queryPath value, ?_, ?_⟩
  · have hself : ∀ path : List Segment, path.mapM Segment.settled? = some path ↔
        ∀ step ∈ path, step.settled? = some step := by
      intro path
      induction path with
      | nil => simp
      | cons step rest ih =>
        rw [List.mapM_cons, List.forall_mem_cons, ← ih]
        cases step.settled? with
        | none => simp
        | some read => cases rest.mapM Segment.settled? <;> simp
    rw [read?_queryPath, hself]
    simp only [Segment.settled?_eq_self_iff]
  · constructor
    · intro hquoted step hstep hloose
      obtain ⟨stem, -, rfl⟩ := id hloose
      have hplain : (PathKey.ofText (stem ++ "\n")).isPlainName = false := by
        rw [PathKey.isPlainName, PathKey.text?_ofText, Option.any_some, String.toList_append]
        exact not_isPlainName_feed _
      exact ((Segment.queryText_eq_quoted_iff _).mp (hquoted _ hstep hplain)).2 hloose
    · intro htight name hname hplain
      exact (Segment.queryText_eq_quoted_iff name).mpr ⟨hplain, htight _ hname⟩

/-- A quoted key with a quote and line feeds, between a plain name and an index. -/
theorem read?_queryPath_eq_some_path_iff_quoted :
    let value : Staged := ⟨"CTX", [.key "_x1", .key "\"a.b\n\n", .index (-1), .key ""]⟩
    (∀ step ∈ value.path, ¬step.IsLoose ∧ ¬step.HoldsSurrogate) ∧
      Query.read? value.queryPath = some value.path := by
  intro value
  have htight : ∀ step ∈ value.path, ¬step.IsLoose ∧ ¬step.HoldsSurrogate := by
    intro step hstep
    rw [← Segment.settled?_eq_self_iff]
    revert step
    decide
  exact ⟨htight, (read?_queryPath_eq_some_path_iff value).2.1.mpr htight⟩

/-- A line feed behind a name is written raw, and lost when the path is read. -/
theorem read?_queryPath_feed :
    (⟨"CTX", [.key "a\n"]⟩ : Staged).queryPath = ".a\n" ∧
    (PathKey.ofText "a\n").isPlainName = false ∧
    Query.read? (⟨"CTX", [.key "a\n"]⟩ : Staged).queryPath = some [.key "a"] ∧
    some [Segment.key "a"] ≠ some [.key "a\n"] := by
  refine ⟨rfl, rfl, ?_, by decide⟩
  rw [read?_queryPath]
  rfl

end Staged

end Runbook
