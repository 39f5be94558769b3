import Runbook.Proofs.JsonStrings
import Runbook.Proofs.Spelling
import Runbook.Text.Identifier

/-!
# What the expression of a staged value tells

A document shows a staged value only by its expression, so two values that share one cannot be told
apart when the document runs. The expression is made in layers: steps are written one after the
other without separators, the path gets a leading dot unless it has one, it is quoted for the shell,
and the quoted path is put into a command. Each layer but one can be undone.

- Keys: the JSON string of a key writes a surrogate pair like the character of the pair, so a key is
  told up to joining its pairs (`PathKey.json_eq_iff`).
- Steps: what a step is written as ends where the next step begins, since a step begins with a dot
  or a bracket and neither continues a name (`Segment.queryText_append_inj`).
- Paths: a dot in front of a bracket is always the added one (`Staged.joined_eq_of_queryPath_eq`).
- Quotes and the command: see `shellQuote_injective` and `Staged.query_inj`.

The name of the variable is the only part that is put into the command as it stands; it has to be an
identifier, which holds no double quote.
-/

namespace Runbook

namespace Text

private theorem joinChars_nil (parts : List (List Char)) : joinChars [] parts = parts.flatten := by
  induction parts with
  | nil => rfl
  | cons part rest ih =>
    cases rest with
    | nil => simp [joinChars]
    | cons next rest => rw [joinChars, ih]; simp

private theorem toList_join_empty (parts : List String) :
    (join "" parts).toList = parts.flatMap String.toList := by
  simp [join, joinChars_nil, List.flatMap]

private theorem startsWith_dot (text : String) :
    startsWith "." text = true ↔ text.toList.head? = some '.' := by
  change (stripStart? ['.'] text.toList).isSome = true ↔ _
  cases text.toList with
  | nil => simp [stripStart?]
  | cons c rest =>
    by_cases h : '.' = c
    · simp [stripStart?, ← h]
    · simp [stripStart?, h, Ne.symm h]

/-- A run of characters of a class ends where the class does. -/
theorem append_inj_of_all {p : Char → Bool} {s t x y : List Char} (hs : s.all p = true)
    (ht : t.all p = true) (hx : x.head?.any p = false) (hy : y.head?.any p = false)
    (h : s ++ x = t ++ y) : s = t ∧ x = y := by
  induction s generalizing t with
  | nil =>
    cases t with
    | nil => exact ⟨rfl, h⟩
    | cons d t => subst h; simp_all
  | cons c s ih =>
    cases t with
    | nil => subst h; simp_all
    | cons d t =>
      rw [List.all_cons, Bool.and_eq_true] at hs ht
      obtain ⟨rfl, hrest⟩ := List.cons.inj h
      obtain ⟨rfl, hxy⟩ := ih hs.2 ht.2 hrest
      exact ⟨rfl, hxy⟩

end Text

/-! ## Steps -/

/-- The characters of a name that is written without quotes; a line feed may end it. -/
def isNameChar (c : Char) : Bool := isBareChar c || c == '\n'

private theorem spellsBareName_cons {c : Char} {rest : List Char}
    (h : spellsBareName (c :: rest) = true) :
    (c.isAlpha || c == '_') = true ∧ rest.all isNameChar = true := by
  have hmono : ∀ text : List Char, text.all isBareChar = true → text.all isNameChar = true := by
    intro text htext
    rw [List.all_eq_true] at htext ⊢
    intro d hd
    rw [isNameChar, htext d hd, Bool.true_or]
  rw [spellsBareName, Bool.and_eq_true] at h
  refine ⟨h.1, ?_⟩
  rcases Bool.or_eq_true_iff.mp h.2 with hall | hlast
  · exact hmono rest hall
  · split at hlast
    · next hfeed =>
      rw [← List.dropLast_append_getLast? '\n' hfeed, List.all_append, hmono _ hlast]
      rfl
    · exact absurd hlast Bool.false_ne_true

theorem all_isNameChar {name : List Char} (h : spellsBareName name = true) :
    name.all isNameChar = true := by
  cases name with
  | nil => rfl
  | cons c rest =>
    obtain ⟨hc, hrest⟩ := spellsBareName_cons h
    rw [List.all_cons, hrest, Bool.and_true, isNameChar, isBareChar, Char.isAlphanum]
    grind

private theorem toNat_lt_of_isNameChar {c : Char} (h : isNameChar c = true) :
    c.toNat < 0x10000 := by
  rw [isNameChar, isBareChar, Bool.or_eq_true, Bool.or_eq_true, beq_iff_eq, beq_iff_eq] at h
  rcases h with (halphanum | rfl) | rfl
  · have hnumber : isNumberChar c = true := by simp [isNumberChar, halphanum]
    exact (toNat_of_isNumberChar hnumber).2.trans (by decide)
  all_goals decide

/-- A key that is written without quotes is a text, and its characters are those of a name. -/
theorem PathKey.bareName?_eq_some_iff {key : PathKey} {text : String} :
    key.bareName? = some text ↔ key = text ∧ spellsBareName text.toList = true := by
  rw [bareName?, Option.filter_eq_some_iff, text?_eq_some_iff]

/-- Whether a key is written without quotes does not depend on its pairs: a name holds no character
that a pair could be joined to. -/
theorem PathKey.bareName?_joined (key : PathKey) : key.joined.bareName? = key.bareName? := by
  ext text
  simp only [bareName?_eq_some_iff]
  constructor
  · rintro ⟨hjoined, hbare⟩
    refine ⟨?_, hbare⟩
    have hsmall : ∀ c, .char c ∈ key.joined.points → c.toNat < 0x10000 := by
      intro c hc
      rw [hjoined, ofText] at hc
      obtain ⟨d, hd, hdc⟩ := List.mem_map.mp hc
      cases hdc
      exact toNat_lt_of_isNameChar (List.all_eq_true.mp (all_isNameChar hbare) c hd)
    rw [← hjoined, PathKey.ext_iff]
    exact (CodePoint.joinPairs_eq_self hsmall).symm
  · rintro ⟨rfl, hbare⟩
    exact ⟨joined_ofText text, hbare⟩

namespace Segment

/-- The step with the surrogate pairs of its key joined. -/
def joined : Segment → Segment
  | .key name => .key name.joined
  | .index position => .index position

private theorem queryText_joined (segment : Segment) :
    segment.joined.queryText = segment.queryText := by
  cases segment with
  | index n => rfl
  | key name => rw [joined, queryText, queryText, PathKey.bareName?_joined, PathKey.json_joined]

/-- The three ways in which a step is written. -/
theorem toList_queryText (segment : Segment) :
    (∃ name : String, segment = .key name ∧ spellsBareName name.toList = true ∧
        segment.queryText.toList = '.' :: name.toList) ∨
      (∃ n, segment = .index n ∧
        segment.queryText.toList = '[' :: (n.repr.toList ++ [']'])) ∨
      ∃ name, segment = .key name ∧
        segment.queryText.toList = '[' :: (name.json.toList ++ [']']) := by
  cases segment with
  | index n => exact .inr (.inl ⟨n, rfl, by simp [queryText]⟩)
  | key name =>
    cases h : name.bareName? with
    | some text =>
      obtain ⟨rfl, hbare⟩ := PathKey.bareName?_eq_some_iff.mp h
      exact .inl ⟨text, rfl, hbare, by simp [queryText, h]⟩
    | none => exact .inr (.inr ⟨name, rfl, by simp [queryText, h]⟩)

private theorem integer_ne_json (n : Int) (name : PathKey) (x y : List Char) :
    n.repr.toList ++ ']' :: x ≠ name.json.toList ++ y := by
  intro h
  have hall := all_isNumberChar_repr n
  rw [PathKey.json, String.toList_ofList] at h
  cases hn : n.repr.toList with
  | nil => simp [hn] at h
  | cons c rest =>
    rw [hn] at h hall
    obtain ⟨rfl, -⟩ := List.cons.inj h
    exact absurd hall (by simp [isNumberChar])

/-- A step ends where the next one begins. -/
theorem queryText_append_inj {s t : Segment} {x y : List Char}
    (hx : x.head?.any isNameChar = false) (hy : y.head?.any isNameChar = false)
    (h : s.queryText.toList ++ x = t.queryText.toList ++ y) : s.joined = t.joined ∧ x = y := by
  rcases toList_queryText s with ⟨a, rfl, ha, hs⟩ | ⟨m, rfl, hs⟩ | ⟨a, rfl, hs⟩ <;>
    rcases toList_queryText t with ⟨b, rfl, hb, ht⟩ | ⟨n, rfl, ht⟩ | ⟨b, rfl, ht⟩ <;>
    simp only [hs, ht, List.cons_append, List.append_assoc, List.nil_append, List.cons.injEq,
      true_and, Char.reduceEq, false_and] at h
  · obtain ⟨hab, hxy⟩ := Text.append_inj_of_all (all_isNameChar ha) (all_isNameChar hb) hx hy h
    exact ⟨by rw [String.toList_inj.mp hab], hxy⟩
  · obtain ⟨hmn, hxy⟩ := Text.append_inj_of_all (all_isNumberChar_repr m)
      (all_isNumberChar_repr n) (by rfl) (by rfl) h
    exact ⟨by rw [eq_of_repr_eq hmn], List.tail_eq_of_cons_eq hxy⟩
  · exact absurd h (integer_ne_json m b x _)
  · exact absurd h.symm (integer_ne_json n a y _)
  · obtain ⟨hab, hxy⟩ := PathKey.json_append_inj h
    exact ⟨congrArg Segment.key hab, List.tail_eq_of_cons_eq hxy⟩

/-- The characters of steps one after the other. -/
def pathChars (path : List Segment) : List Char := path.flatMap fun s ↦ s.queryText.toList

private theorem pathChars_joined (path : List Segment) :
    pathChars (path.map joined) = pathChars path := by
  simp only [pathChars, List.flatMap_map, queryText_joined]

theorem pathChars_cons (s : Segment) (path : List Segment) :
    pathChars (s :: path) = s.queryText.toList ++ pathChars path := List.flatMap_cons

/-- A step begins with a dot or a bracket. -/
theorem head?_pathChars_cons (s : Segment) (path : List Segment) :
    (pathChars (s :: path)).head? = some '.' ∨ (pathChars (s :: path)).head? = some '[' := by
  rcases toList_queryText s with ⟨a, -, -, hs⟩ | ⟨m, -, hs⟩ | ⟨a, -, hs⟩ <;>
    simp [pathChars_cons, hs]

private theorem head?_pathChars_not_isNameChar (path : List Segment) :
    (pathChars path).head?.any isNameChar = false := by
  cases path with
  | nil => rfl
  | cons s rest => rcases head?_pathChars_cons s rest with h | h <;> rw [h] <;> rfl

/-- Paths that are written alike are the same but for the pairs in their keys. -/
theorem joined_eq_of_pathChars_eq {p q : List Segment} (h : pathChars p = pathChars q) :
    p.map joined = q.map joined := by
  induction p generalizing q with
  | nil =>
    cases q with
    | nil => rfl
    | cons t q => rcases head?_pathChars_cons t q with ht | ht <;> rw [← h] at ht <;> cases ht
  | cons s p ih =>
    cases q with
    | nil => rcases head?_pathChars_cons s p with hs | hs <;> rw [h] at hs <;> cases hs
    | cons t q =>
      rw [pathChars_cons, pathChars_cons] at h
      obtain ⟨hstep, hrest⟩ := queryText_append_inj (head?_pathChars_not_isNameChar p)
        (head?_pathChars_not_isNameChar q) h
      rw [List.map_cons, List.map_cons, hstep, ih hrest]

/-- Behind a dot that begins a path there is a name and no bracket. -/
theorem pathChars_ne_dot_bracket (path : List Segment) (x : List Char) :
    pathChars path ≠ '.' :: '[' :: x := by
  intro h
  cases path with
  | nil => exact absurd h (List.cons_ne_nil _ _).symm
  | cons s rest =>
    rw [pathChars_cons] at h
    rcases toList_queryText s with ⟨a, -, ha, hs⟩ | ⟨m, -, hs⟩ | ⟨a, -, hs⟩ <;> rw [hs] at h
    · cases hname : a.toList with
      | nil => rw [hname] at ha; exact absurd ha Bool.false_ne_true
      | cons c name =>
        rw [hname] at h ha
        obtain ⟨hc, -⟩ := List.cons.inj (List.tail_eq_of_cons_eq h)
        have hfirst := (spellsBareName_cons ha).1
        rw [hc] at hfirst
        exact absurd hfirst (by decide)
    · exact absurd (List.cons.inj h).1 (by decide)
    · exact absurd (List.cons.inj h).1 (by decide)

end Segment

/-! ## Paths -/

namespace Staged

theorem toList_queryPath {value : Staged} (h : value.path ≠ []) :
    value.queryPath.toList =
      if (Segment.pathChars value.path).head? = some '.' then Segment.pathChars value.path
      else '.' :: Segment.pathChars value.path := by
  have htext : (Text.join "" (value.path.map Segment.queryText)).toList =
      Segment.pathChars value.path := by
    rw [Text.toList_join_empty, List.flatMap_map, Segment.pathChars]
  have hdot := Text.startsWith_dot (Text.join "" (value.path.map Segment.queryText))
  rw [htext] at hdot
  rw [queryPath, if_neg (by simpa using h)]
  dsimp only
  by_cases hstart : (Segment.pathChars value.path).head? = some '.'
  · rw [if_pos hstart, if_pos (hdot.mpr hstart), htext]
  · rw [if_neg hstart, if_neg (fun hbool ↦ hstart (hdot.mp hbool)), String.toList_append, htext]
    rfl

/-- A path that does not begin with a dot begins with a bracket, so the added dot shows. -/
theorem pathChars_ne_dot_cons (p : List Segment) {q : List Segment} (hq : q ≠ [])
    (hdot : (Segment.pathChars q).head? ≠ some '.') :
    Segment.pathChars p ≠ '.' :: Segment.pathChars q := by
  obtain ⟨t, rest, rfl⟩ := List.exists_cons_of_ne_nil hq
  rcases Segment.head?_pathChars_cons t rest with ht | ht
  · exact absurd ht hdot
  · obtain ⟨x, hx⟩ := List.head?_eq_some_iff.mp ht
    rw [hx]
    exact Segment.pathChars_ne_dot_bracket p x

private theorem joined_eq_of_queryPath_eq {v w : Staged} (hv : v.path ≠ []) (hw : w.path ≠ [])
    (h : v.queryPath = w.queryPath) : v.path.map Segment.joined = w.path.map Segment.joined := by
  have hchars := congrArg String.toList h
  rw [toList_queryPath hv, toList_queryPath hw] at hchars
  apply Segment.joined_eq_of_pathChars_eq
  split at hchars <;> split at hchars
  · exact hchars
  · next hdot => exact absurd hchars (pathChars_ne_dot_cons v.path hw hdot)
  · next hdot _ => exact absurd hchars.symm (pathChars_ne_dot_cons w.path hv hdot)
  · exact List.tail_eq_of_cons_eq hchars

end Staged

/-! ## Expressions -/

namespace Staged

/-- The characters of the command. -/
theorem toList_query (tool : String) (mode : Mode) (value : Staged) :
    (value.query tool mode).toList =
      '$' :: '(' :: 'e' :: 'c' :: 'h' :: 'o' :: ' ' :: '"' :: '$' :: (value.root.toList ++
        '"' :: ' ' :: '|' :: ' ' :: (tool.toList ++ ' ' :: (mode.flag.toList ++
          ' ' :: ((shellQuote value.queryPath).toList ++ [')'])))) := by
  change ("$(echo \"$" ++ value.root ++ "\" | " ++ tool ++ " " ++ mode.flag ++ " " ++
    shellQuote value.queryPath ++ ")").toList = _
  simp only [String.toList_append, String.reduceToList, List.append_assoc, List.cons_append,
    List.nil_append]

/-- The command tells the variable, the mode and the path. -/
theorem query_inj {tool : String} {m n : Mode} {v w : Staged}
    (hv : v.root.toList.all (· != '"') = true) (hw : w.root.toList.all (· != '"') = true)
    (h : v.query tool m = w.query tool n) :
    v.root = w.root ∧ m = n ∧ v.queryPath = w.queryPath := by
  have hchars := congrArg String.toList h
  simp only [toList_query, List.cons.injEq, true_and] at hchars
  -- The quote behind the variable is the first one, because the name of the variable has none.
  obtain ⟨hroot, hrest⟩ := Text.append_inj_of_all hv hw rfl rfl hchars
  simp only [List.cons.injEq, true_and, List.append_cancel_left_eq] at hrest
  have hlength : m.flag.toList.length = n.flag.toList.length := by
    cases m <;> cases n <;> simp [Mode.flag]
  obtain ⟨hflag, hquoted⟩ := List.append_inj hrest hlength
  have hpath := List.append_cancel_right (List.tail_eq_of_cons_eq hquoted)
  refine ⟨String.toList_inj.mp hroot, ?_, shellQuote_injective (String.toList_inj.mp hpath)⟩
  cases m <;> cases n <;> simp_all [Mode.flag]

/-- The value is found through a variable that is named by an identifier: one of any script, or one
that a query path writes without quotes. -/
def hasIdentifierRoot (value : Staged) : Bool :=
  Text.isIdentifier value.root || spellsBareName value.root.toList

/-- An identifier neither holds a double quote nor begins with a parenthesis. -/
theorem root_of_hasIdentifierRoot {value : Staged} (h : value.hasIdentifierRoot = true) :
    value.root.toList.all (· != '"') = true ∧ value.root.toList.head? ≠ some '(' := by
  rw [hasIdentifierRoot, Text.isIdentifier, Bool.or_eq_true] at h
  cases hroot : value.root.toList with
  | nil => exact ⟨rfl, nofun⟩
  | cons c rest =>
    rw [hroot] at h
    -- What matters of either kind of identifier is what its characters are not.
    obtain ⟨p, hc, hrest, hquote⟩ : ∃ p : Char → Bool,
        (c ≠ '(' ∧ c ≠ '"') ∧ rest.all p = true ∧ p '"' = false := by
      rcases h with h | h
      · rw [Text.spellsIdentifier, Bool.and_eq_true] at h
        refine ⟨Text.isIdentifierRest, ⟨?_, ?_⟩, h.2, by decide⟩ <;>
          · rintro rfl
            exact absurd h.1 (by decide)
      · obtain ⟨hc, hrest⟩ := spellsBareName_cons h
        refine ⟨isNameChar, ⟨?_, ?_⟩, hrest, by decide⟩ <;>
          · rintro rfl
            exact absurd hc (by decide)
    refine ⟨?_, by simpa using hc.1⟩
    rw [List.all_cons, Bool.and_eq_true]
    refine ⟨by simpa using hc.2, List.all_eq_true.mpr fun d hd ↦ ?_⟩
    have hd' : p d = true := List.all_eq_true.mp hrest d hd
    rw [bne_iff_ne]
    rintro rfl
    exact absurd (hquote.symm.trans hd') Bool.false_ne_true

theorem resolve_of_path {value : Staged} (h : value.path ≠ []) (tool : String) (mode : Mode) :
    value.resolve tool mode = value.query tool mode := by
  rw [resolve, if_neg (by simpa using h)]

theorem resolve_of_root {value : Staged} (h : value.path = []) (tool : String) (mode : Mode) :
    value.resolve tool mode = "$" ++ value.root := by
  rw [resolve, if_pos (by simp [h])]

/-- A variable is no command. -/
theorem dollar_append_ne_query {v : Staged} (hv : v.root.toList.head? ≠ some '(') (tool : String)
    (mode : Mode) (w : Staged) : "$" ++ v.root ≠ w.query tool mode := by
  intro h
  have hchars := congrArg String.toList h
  simp only [toList_query, String.toList_append, String.reduceToList, List.cons_append,
    List.nil_append, List.cons.injEq, true_and] at hchars
  exact hv (by rw [hchars]; rfl)

/-- The value with the surrogate pairs of its keys joined. -/
def joined (value : Staged) : Staged := { value with path := value.path.map Segment.joined }

private theorem joined_eq_joined_iff {v w : Staged} :
    v.joined = w.joined ↔
      v.root = w.root ∧ v.path.map Segment.joined = w.path.map Segment.joined := by
  rw [joined, joined, Staged.mk.injEq]

private theorem queryPath_joined (value : Staged) : value.joined.queryPath = value.queryPath := by
  by_cases h : value.path = []
  · rw [joined, h]
    cases value
    cases h
    rfl
  · have hjoined : value.joined.path ≠ [] := by simpa [joined] using h
    rw [← String.toList_inj, toList_queryPath h, toList_queryPath hjoined]
    exact Segment.pathChars_joined value.path ▸ rfl

/-- An expression does not tell whether a pair has been joined. -/
theorem resolve_joined (tool : String) (mode : Mode) (value : Staged) :
    value.joined.resolve tool mode = value.resolve tool mode := by
  have hempty : value.joined.path.isEmpty = value.path.isEmpty := by simp [joined]
  have hroot : value.joined.root = value.root := rfl
  rw [resolve, resolve, hempty, query, query, queryPath_joined, hroot]

/-- What two values share if they share an expression. -/
theorem joined_eq_of_resolve_eq {tool : String} {m n : Mode} {v w : Staged}
    (hv : v.hasIdentifierRoot = true) (hw : w.hasIdentifierRoot = true)
    (h : v.resolve tool m = w.resolve tool n) : v.joined = w.joined ∧ (v.path ≠ [] → m = n) := by
  obtain ⟨hvquote, hvparen⟩ := root_of_hasIdentifierRoot hv
  obtain ⟨hwquote, hwparen⟩ := root_of_hasIdentifierRoot hw
  by_cases hvpath : v.path = [] <;> by_cases hwpath : w.path = []
  · rw [resolve_of_root hvpath, resolve_of_root hwpath] at h
    have hroot : v.root = w.root := by simpa using h
    exact ⟨joined_eq_joined_iff.mpr ⟨hroot, by rw [hvpath, hwpath]⟩,
      fun hpath ↦ absurd hvpath hpath⟩
  · rw [resolve_of_root hvpath, resolve_of_path hwpath] at h
    exact absurd h (dollar_append_ne_query hvparen tool n w)
  · rw [resolve_of_path hvpath, resolve_of_root hwpath] at h
    exact absurd h.symm (dollar_append_ne_query hwparen tool m v)
  · rw [resolve_of_path hvpath, resolve_of_path hwpath] at h
    obtain ⟨hroot, rfl, hquery⟩ := query_inj hvquote hwquote h
    have hpath := joined_eq_of_queryPath_eq hvpath hwpath hquery
    exact ⟨joined_eq_joined_iff.mpr ⟨hroot, hpath⟩, fun _ ↦ rfl⟩

/-- A key of the value holds a surrogate pair. -/
def HoldsPair (value : Staged) : Prop := ∃ name, .key name ∈ value.path ∧ name.HoldsPair

private theorem joined_eq_self {value : Staged} (h : ¬value.HoldsPair) : value.joined = value := by
  have hpath : value.path.map Segment.joined = value.path := by
    conv_rhs => rw [← List.map_id value.path]
    refine List.map_congr_left fun step hstep ↦ ?_
    cases step with
    | index n => rfl
    | key name =>
      have hname : name.joined = name := PathKey.joined_eq_self_iff.mpr fun hpair ↦
        h ⟨name, hstep, hpair⟩
      rw [Segment.joined, hname, id]
  rw [joined, hpath]

/-- **Different staged values share an expression only through surrogate pairs.** Whatever the query
tool is called and the mode is, two values have the same expression exactly if they have the same
variable and their paths are the same once the surrogate pairs in their keys are joined; so two
values without such pairs that share an expression are the same. No raw expression with a path is
also the expression of a JSON text. -/
theorem resolve_eq_iff (tool : String) (v w : Staged) (hv : v.hasIdentifierRoot = true)
    (hw : w.hasIdentifierRoot = true) :
    (∀ mode, v.resolve tool mode = w.resolve tool mode ↔
        v.root = w.root ∧ v.path.map Segment.joined = w.path.map Segment.joined) ∧
      (¬v.HoldsPair → ¬w.HoldsPair → ∀ mode, v.resolve tool mode = w.resolve tool mode →
        v.root = w.root ∧ v.path = w.path) ∧
      (v.path ≠ [] → v.resolve tool .raw ≠ w.resolve tool .json) := by
  have hshared : ∀ mode, v.resolve tool mode = w.resolve tool mode ↔ v.joined = w.joined := by
    intro mode
    constructor
    · intro h
      exact (joined_eq_of_resolve_eq hv hw h).1
    · intro h
      rw [← resolve_joined tool mode v, h, resolve_joined]
  refine ⟨fun mode ↦ ?_, fun hvpair hwpair mode h ↦ ?_, fun hpath h ↦ ?_⟩
  · rw [hshared, joined_eq_joined_iff]
  · have hsame := (hshared mode).mp h
    rw [joined_eq_self hvpair, joined_eq_self hwpair] at hsame
    rw [hsame]
    exact ⟨rfl, rfl⟩
  · exact Mode.noConfusion ((joined_eq_of_resolve_eq hv hw h).2 hpath)

/-- Keys that differ in a line feed at the end, behind a key that both quotings escape. -/
theorem resolve_eq_iff_line_feed :
    let v : Staged := ⟨"CTX", [.key "it's \"][\"", .key "a\n"]⟩
    let w : Staged := ⟨"CTX", [.key "it's \"][\"", .key "a"]⟩
    (v.hasIdentifierRoot = true ∧ w.hasIdentifierRoot = true ∧ ¬v.HoldsPair ∧ ¬w.HoldsPair) ∧
      v.resolve "jq" .raw ≠ w.resolve "jq" .raw ∧ v.resolve "jq" .json ≠ w.resolve "jq" .json ∧
      v.resolve "jq" .raw ≠ w.resolve "jq" .json := by
  intro v w
  have hv : v.hasIdentifierRoot = true := by decide
  have hw : w.hasIdentifierRoot = true := by decide
  have hpath : v.path ≠ w.path := by decide
  have hpairs : ¬v.HoldsPair ∧ ¬w.HoldsPair := by
    simp [HoldsPair, v, w, PathKey.not_holdsPair_ofText]
  obtain ⟨-, hinjective, hmodes⟩ := resolve_eq_iff "jq" v w hv hw
  have hraw := hinjective hpairs.1 hpairs.2 .raw
  have hjson := hinjective hpairs.1 hpairs.2 .json
  exact ⟨⟨hv, hw, hpairs⟩, fun h ↦ hpath (hraw h).2, fun h ↦ hpath (hjson h).2,
    hmodes (by decide)⟩

/-- A key of two surrogates and the character that they are a pair of have one expression. -/
theorem resolve_surrogate_pair :
    let v : Staged := ⟨"CTX", [.key ⟨[.surrogate 0, .surrogate 0x400]⟩]⟩
    let w : Staged := ⟨"CTX", [.key (String.singleton (Char.ofNat 0x10000))]⟩
    v.path ≠ w.path ∧ v.resolve "jq" .raw = w.resolve "jq" .raw ∧
      v.resolve "jq" .json = w.resolve "jq" .json := by
  decide

end Staged

end Runbook
