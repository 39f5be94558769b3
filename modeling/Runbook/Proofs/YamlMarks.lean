import Runbook.Proofs.CommandLines

/-!
# Marks in YAML text

A line of three dashes ends the frontmatter of a document, so the YAML text in it must not hold such
a line, whatever the data is. It does not: a text that starts with three dashes is quoted, the lines
of a folded text are indented, and an item of a sequence has a blank behind its dash.

The lines of a text are made by line feeds, so it is enough to look behind each of them. What stands
there has to differ from three dashes within its first three characters (`breaksDashes`); then it
does so whatever is appended, and the property goes through all the places where texts are put
together (`isCalm_append`).
-/

namespace Runbook.Yaml

/-! ## What stands behind a line feed -/

/-- One of the first `n` characters is no dash. -/
def breaksDashes : Nat → List Char → Bool
  | n + 1, c :: rest => c != '-' || breaksDashes n rest
  | _, _ => false

/-- The text behind each line feed differs from three dashes. -/
def isCalm : List Char → Bool
  | [] => true
  | c :: rest => (c != '\n' || breaksDashes 3 rest) && isCalm rest

private theorem breaksDashes_append {n : Nat} {x : List Char} (h : breaksDashes n x = true)
    (y : List Char) : breaksDashes n (x ++ y) = true := by
  fun_induction breaksDashes n x with
  | case1 n c rest ih =>
    rw [Bool.or_eq_true] at h
    rw [List.cons_append, breaksDashes, Bool.or_eq_true]
    exact h.imp_right ih
  | case2 => exact absurd h Bool.false_ne_true

private theorem breaksDashes_of_ne {c : Char} (h : c ≠ '-') (rest : List Char) :
    breaksDashes 3 (c :: rest) = true := by
  rw [breaksDashes, bne_iff_ne.mpr h, Bool.true_or]

private theorem not_isPrefix_of_breaksDashes {n : Nat} {text : List Char}
    (h : breaksDashes n text = true) : ¬List.replicate n '-' <+: text := by
  fun_induction breaksDashes n text with
  | case1 n c rest ih =>
    rw [List.replicate_succ, List.cons_prefix_cons]
    rintro ⟨rfl, hrest⟩
    exact ih (by simpa using h) hrest
  | case2 => exact absurd h Bool.false_ne_true

private theorem isCalm_append {x y : List Char} (hx : isCalm x = true) (hy : isCalm y = true) :
    isCalm (x ++ y) = true := by
  induction x with
  | nil => exact hy
  | cons c x ih =>
    rw [isCalm, Bool.and_eq_true, Bool.or_eq_true] at hx
    rw [List.cons_append, isCalm, Bool.and_eq_true, Bool.or_eq_true]
    exact ⟨hx.1.imp_right fun h ↦ breaksDashes_append h y, ih hx.2⟩

private theorem isCalm_cons {c : Char} (hc : c ≠ '\n') (rest : List Char) :
    isCalm (c :: rest) = isCalm rest := by
  rw [isCalm, bne_iff_ne.mpr hc, Bool.true_or, Bool.true_and]

private theorem isCalm_feed {rest : List Char} (hbreaks : breaksDashes 3 rest = true)
    (hrest : isCalm rest = true) : isCalm ('\n' :: rest) = true := by
  rw [isCalm, hbreaks, hrest, Bool.or_true, Bool.true_and]

private theorem isCalm_of_notMem {text : List Char} (h : '\n' ∉ text) : isCalm text = true := by
  induction text with
  | nil => rfl
  | cons c rest ih =>
    rw [List.mem_cons, not_or] at h
    rw [isCalm_cons (Ne.symm h.1), ih h.2]

/-- Blanks in front of a text that starts with no dashes. -/
theorem breaksDashes_blanks (count : Nat) {text : List Char} (h : breaksDashes 3 text = true) :
    breaksDashes 3 (List.replicate count ' ' ++ text) = true := by
  cases count with
  | zero => exact h
  | succ count => exact breaksDashes_of_ne (by decide) _

private theorem isCalm_blanks (count : Nat) : isCalm (List.replicate count ' ') = true :=
  isCalm_of_notMem fun h ↦ absurd (List.eq_of_mem_replicate h) (by decide)

private theorem isCalm_breakLine {indent : Nat} (h : 0 < indent) :
    isCalm (breakLine indent) = true := by
  obtain ⟨count, rfl⟩ := Nat.exists_eq_add_of_lt h
  rw [breakLine]
  exact isCalm_feed (breaksDashes_of_ne (by decide) _) (isCalm_blanks _)

/-- A calm text holds no line that starts with three dashes, unless its first line does. -/
theorem not_isPrefix_of_mem_tail {text line : List Char} (hcalm : isCalm text = true)
    (hline : line ∈ (Text.splitLines text).tail) : ¬List.replicate 3 '-' <+: line := by
  induction text with
  | nil => exact absurd hline List.not_mem_nil
  | cons c rest ih =>
    rw [isCalm, Bool.and_eq_true] at hcalm
    obtain ⟨first, others, hrest⟩ := List.exists_cons_of_ne_nil (Text.splitLines_ne_nil rest)
    rw [Text.splitLines, hrest] at hline
    rw [hrest] at ih
    split at hline
    · next hc =>
      subst hc
      rcases List.mem_cons.mp hline with rfl | hline
      · intro hdashes
        refine not_isPrefix_of_breaksDashes (by simpa using hcalm.1) (hdashes.trans ?_)
        rw [← Text.joinChars_splitLines rest, hrest, Text.joinChars_cons]
        exact List.prefix_append _ _
      · exact ih hcalm.2 hline
    · exact ih hcalm.2 hline

private theorem not_isPrefix_of_mem_splitLines {text line : List Char} (hcalm : isCalm text = true)
    (hstart : breaksDashes 3 text = true) (hline : line ∈ Text.splitLines text) :
    ¬List.replicate 3 '-' <+: line := by
  -- The text stands behind a line feed, so that its first line is like the others.
  have hbelow : line ∈ (Text.splitLines ('\n' :: text)).tail := by
    rw [Text.splitLines, if_pos rfl]
    exact hline
  exact not_isPrefix_of_mem_tail (isCalm_feed hstart hcalm) hbelow

/-! ## Scalars -/

private theorem feed_notMem_upperHex (width n : Nat) : '\n' ∉ upperHex width n := by
  have hdigit : ∀ d < 16, '\n' ≠ (Text.hexDigit d).toUpper := by decide
  rw [upperHex]
  induction width generalizing n with
  | zero => exact List.not_mem_nil
  | succ width ih =>
    rw [Text.hexDigits, List.map_append, List.mem_append, List.map_singleton, List.mem_singleton]
    exact not_or.mpr ⟨ih _, hdigit _ (Nat.mod_lt _ (by decide))⟩

private theorem feed_notMem_escape (c : Char) : '\n' ∉ escape c := by
  have hhex : ∀ (mark : Char) (width : Nat), mark ≠ '\n' →
      '\n' ∉ '\\' :: mark :: upperHex width c.toNat := by
    intro mark width hmark
    rw [List.mem_cons, List.mem_cons, not_or, not_or]
    exact ⟨by decide, hmark.symm, feed_notMem_upperHex _ _⟩
  rw [escape]
  split
  · next letter hletter =>
    obtain ⟨before, after, hletters, -⟩ := List.lookup_eq_some_iff.mp hletter
    have hmem : (c, letter) ∈ escapeLetters := by
      rw [hletters]
      exact List.mem_append_right _ List.mem_cons_self
    have hall : escapeLetters.all (fun entry ↦ entry.2 != '\n') = true := by decide
    have hne : letter ≠ '\n' := by simpa using List.all_eq_true.mp hall _ hmem
    rw [List.mem_cons, List.mem_singleton, not_or]
    exact ⟨by decide, hne.symm⟩
  · dsimp only
    split
    · exact hhex 'x' 2 (by decide)
    split
    · exact hhex 'u' 4 (by decide)
    · exact hhex 'U' 8 (by decide)

variable {indent : Nat}

private theorem isCalm_foldPlain (hindent : 0 < indent) {text : List Char} (h : '\n' ∉ text)
    (column : Nat) (afterSpace : Bool) :
    isCalm (foldPlain indent column afterSpace text) = true := by
  induction text generalizing column afterSpace with
  | nil => rfl
  | cons c rest ih =>
    rw [List.mem_cons, not_or] at h
    rw [foldPlain]
    split
    · exact isCalm_append (isCalm_breakLine hindent) (ih h.2 _ _)
    · rw [isCalm_cons (Ne.symm h.1)]
      exact ih h.2 _ _

/-- What follows a line break that is written out is another one or is indented. -/
theorem breaksDashes_foldSingle {fold : Bool} {column : Nat} {before : Before} {text : List Char}
    (h : text.head?.any isBreak = true) :
    breaksDashes 3 (foldSingle fold indent column before text) = true := by
  cases text with
  | nil => exact absurd h Bool.false_ne_true
  | cons c rest =>
    have hbreak : isBreak c = true := h
    have hc : c ≠ '-' := by
      rintro rfl
      exact absurd hbreak (by decide)
    have hwritten : breaksDashes 3
        (if before != .lineBreak && c == '\n' then ['\n', c] else [c]) = true := by
      split
      · exact breaksDashes_of_ne (by decide) _
      · exact breaksDashes_of_ne hc _
    rw [foldSingle, if_pos hbreak]
    dsimp only
    split
    · exact breaksDashes_append hwritten _
    · rw [List.append_assoc]
      exact breaksDashes_append hwritten _

private theorem isCalm_foldSingle (hindent : 0 < indent) (fold : Bool) (column : Nat)
    (before : Before) (text : List Char) :
    isCalm (foldSingle fold indent column before text) = true := by
  induction text generalizing column before with
  | nil => rfl
  | cons c rest ih =>
    rw [foldSingle]
    split
    · -- The line feed that may come first is followed by the line break itself.
      have hwritten : ∀ tail, breaksDashes 3 tail = true → isCalm tail = true →
          isCalm ((if before != .lineBreak && c == '\n' then ['\n', c] else [c]) ++ tail) =
            true := by
        intro tail hbreaks hcalm
        have hone : isCalm (c :: tail) = true := by
          by_cases hc : c = '\n'
          · rw [hc]
            exact isCalm_feed hbreaks hcalm
          · rw [isCalm_cons hc, hcalm]
        split
        · next hfeed =>
          rw [Bool.and_eq_true, beq_iff_eq] at hfeed
          rw [hfeed.2] at hone ⊢
          exact isCalm_feed (breaksDashes_of_ne (by decide) _) hone
        · exact hone
      dsimp only
      split
      · next hnext => exact hwritten _ (breaksDashes_foldSingle hnext) (ih _ _)
      · rw [List.append_assoc]
        obtain ⟨count, rfl⟩ := Nat.exists_eq_add_of_lt hindent
        exact hwritten _ (breaksDashes_of_ne (by decide) _)
          (isCalm_append (isCalm_blanks _) (ih _ _))
    · next hbreak =>
      have hc : c ≠ '\n' := by
        rintro rfl
        exact hbreak (by decide)
      split
      · exact isCalm_append (isCalm_breakLine hindent) (ih _ _)
      split
      · rw [isCalm_cons (by decide), isCalm_cons (by decide)]
        exact ih _ _
      · rw [isCalm_cons hc]
        exact ih _ _

private theorem isCalm_foldDouble (hindent : 0 < indent) (fold : Bool) (column : Nat)
    (isFirst afterEscape : Bool) (text : List Char) :
    isCalm (foldDouble fold indent column isFirst afterEscape text) = true := by
  have hguard : ∀ guarded : Bool, isCalm (if guarded then ['\\'] else []) = true := by decide
  induction text generalizing column isFirst afterEscape with
  | nil => rfl
  | cons c rest ih =>
    have hbroken : ∀ (guarded : Bool) (tail : List Char), isCalm tail = true →
        isCalm ('\\' :: breakLine indent ++ (if guarded then ['\\'] else []) ++ tail) = true := by
      intro guarded tail htail
      rw [List.cons_append, List.cons_append, isCalm_cons (by decide)]
      exact isCalm_append (isCalm_append (isCalm_breakLine hindent) (hguard guarded)) htail
    rw [foldDouble]
    dsimp only
    split
    · next hbare =>
      have hc : c ≠ '\n' := by
        rintro rfl
        exact absurd hbare (by decide)
      have hrest : ∀ column,
          isCalm (c :: foldDouble fold indent column false false rest) = true := by
        intro column
        rw [isCalm_cons hc]
        exact ih _ _ _
      split
      · exact hbroken _ _ (hrest _)
      · exact hrest _
    · have hescape := isCalm_of_notMem (feed_notMem_escape c)
      split
      · rw [List.append_assoc, List.append_assoc, ← List.append_assoc ('\\' :: _)]
        exact isCalm_append hescape (hbroken _ _ (ih _ _ _))
      · exact isCalm_append hescape (ih _ _ _)

theorem needsQuotes_of_plain {text : String} (h : styleOf text = .plain) :
    needsQuotes text.toList = false := by
  rw [styleOf] at h
  split at h
  · next hplain => simpa using (Bool.and_eq_true_iff.mp hplain).1
  · split at h <;> cases h

private theorem feed_notMem_of_plain {text : String} (h : styleOf text = .plain) :
    '\n' ∉ text.toList := by
  intro hfeed
  have hbreak : text.toList.any isBreak = true := List.any_eq_true.mpr ⟨_, hfeed, by decide⟩
  have hquotes : needsQuotes text.toList = true := by
    rw [needsQuotes, hbreak, Bool.or_true, Bool.true_or, Bool.true_or, Bool.true_or]
  exact absurd (hquotes.symm.trans (needsQuotes_of_plain h)) (by decide)

private theorem isCalm_quoted {quote : String} (hquote : isCalm quote.toList = true)
    {text : List Char} (h : isCalm text = true) :
    isCalm (quote ++ String.ofList text ++ quote).toList = true := by
  rw [String.toList_append, String.toList_append, String.toList_ofList]
  exact isCalm_append (isCalm_append hquote h) hquote

theorem scalarText_of_plain {text : String} (h : styleOf text = .plain) (fold : Bool)
    (indent column : Nat) :
    scalarText fold indent column text =
      if fold then String.ofList (foldPlain indent column false text.toList) else text := by
  delta scalarText
  rw [h]

theorem scalarText_of_single {text : String} (h : styleOf text = .single) (fold : Bool)
    (indent column : Nat) :
    scalarText fold indent column text =
      "'" ++ String.ofList (foldSingle fold indent (column + 1) .start text.toList) ++ "'" := by
  delta scalarText
  rw [h]

theorem scalarText_of_double {text : String} (h : styleOf text = .double) (fold : Bool)
    (indent column : Nat) :
    scalarText fold indent column text = "\"" ++
      String.ofList (foldDouble fold indent (column + 1) true false text.toList) ++ "\"" := by
  delta scalarText
  rw [h]

private theorem isCalm_scalarText (hindent : 0 < indent) (fold : Bool) (column : Nat)
    (text : String) :
    isCalm (scalarText fold indent column text).toList = true := by
  cases hstyle : styleOf text with
  | plain =>
    have hfeed := feed_notMem_of_plain hstyle
    rw [scalarText_of_plain hstyle]
    split
    · rw [String.toList_ofList]
      exact isCalm_foldPlain hindent hfeed _ _
    · exact isCalm_of_notMem hfeed
  | single =>
    rw [scalarText_of_single hstyle]
    exact isCalm_quoted rfl (isCalm_foldSingle hindent _ _ _ _)
  | double =>
    rw [scalarText_of_double hstyle]
    exact isCalm_quoted rfl (isCalm_foldDouble hindent _ _ _ _ _)

/-! ## Keys -/

/-- A text that does not start like a mark, and a colon behind it. -/
theorem breaksDashes_colon {text : List Char} (h : startsWithMark text = false) :
    breaksDashes 3 (text ++ [':']) = true := by
  match text with
  | [] => rfl
  | [c] => simp [breaksDashes]
  | [c, d] => simp [breaksDashes]
  | c :: d :: e :: rest =>
    by_cases hc : c = '-'
    · by_cases hd : d = '-'
      · by_cases he : e = '-'
        · subst hc hd he
          exact absurd h (by simp [startsWithMark])
        · simp [breaksDashes, he]
      · simp [breaksDashes, hd]
    · exact breaksDashes_of_ne hc _

private theorem breaksDashes_key (indent column : Nat) (key : String) :
    breaksDashes 3 ((scalarText false indent column key).toList ++ [':']) = true := by
  cases hstyle : styleOf key with
  | plain =>
    rw [scalarText_of_plain hstyle, if_neg Bool.false_ne_true]
    refine breaksDashes_colon (Bool.eq_false_iff.mpr fun hmark ↦ ?_)
    have hquotes : needsQuotes key.toList = true := by simp [needsQuotes, hmark]
    exact absurd (hquotes.symm.trans (needsQuotes_of_plain hstyle)) (by decide)
  | single =>
    rw [scalarText_of_single hstyle, String.toList_append, String.toList_append]
    exact breaksDashes_of_ne (by decide) _
  | double =>
    rw [scalarText_of_double hstyle, String.toList_append, String.toList_append]
    exact breaksDashes_of_ne (by decide) _

private theorem toList_spaces (count : Nat) :
    (Text.spaces count).toList = List.replicate count ' ' :=
  String.toList_ofList

private theorem isCalm_keyText (indent : Nat) (key : String) :
    isCalm (keyText indent key).toList = true ∧
      breaksDashes 3 (keyText indent key).toList = true := by
  have hindent : 0 < indent + indentWidth := Nat.succ_pos _
  rw [keyText]
  split
  · rw [String.toList_append]
    exact ⟨isCalm_append (isCalm_scalarText hindent _ _ _) rfl, breaksDashes_key _ _ _⟩
  · have htext : ("? " ++ scalarText true (indent + indentWidth) (indent + 2) key ++ "\n" ++
        Text.spaces indent ++ ":").toList = '?' :: ' ' ::
          ((scalarText true (indent + indentWidth) (indent + 2) key).toList ++
            '\n' :: (List.replicate indent ' ' ++ [':'])) := by
      simp [toList_spaces]
    rw [htext]
    refine ⟨?_, breaksDashes_of_ne (by decide) _⟩
    rw [isCalm_cons (by decide), isCalm_cons (by decide)]
    refine isCalm_append (isCalm_scalarText hindent _ _ _) (isCalm_feed ?_ ?_)
    · exact breaksDashes_blanks _ rfl
    · exact isCalm_append (isCalm_blanks _) rfl

/-! ## Data -/

/-- The text is calm and may stand at the start of a line. -/
def IsEntry (text : String) : Prop :=
  isCalm text.toList = true ∧ breaksDashes 3 text.toList = true

theorem toList_stack_cons (indent : Nat) (text next : String) (rest : List String) :
    (stack indent (text :: next :: rest)).toList = text.toList ++
      '\n' :: (List.replicate indent ' ' ++ (stack indent (next :: rest)).toList) := by
  simp [stack, Text.join, Text.joinChars, toList_spaces]

theorem toList_stack_singleton (indent : Nat) (text : String) :
    (stack indent [text]).toList = text.toList := by
  simp [stack, Text.join, Text.joinChars]

private theorem isEntry_stack (indent : Nat) {entries : List String} (hne : entries ≠ [])
    (h : ∀ text ∈ entries, IsEntry text) : IsEntry (stack indent entries) := by
  induction entries with
  | nil => exact absurd rfl hne
  | cons text rest ih =>
    have htext := h text List.mem_cons_self
    cases rest with
    | nil =>
      rw [IsEntry, toList_stack_singleton]
      exact htext
    | cons next rest =>
      have hrest := ih (List.cons_ne_nil _ _) fun other hother ↦
        h other (List.mem_cons_of_mem _ hother)
      rw [IsEntry, toList_stack_cons]
      refine ⟨isCalm_append htext.1 (isCalm_feed ?_ ?_), breaksDashes_append htext.2 _⟩
      · exact breaksDashes_blanks _ hrest.2
      · exact isCalm_append (isCalm_blanks _) hrest.1

theorem all_isNumberChar_floatText (x : Binary64) :
    (floatText x).toList.all isNumberChar = true := by
  have hdigits := x.all_isNumberChar_literal
  unfold floatText
  split
  · decide
  · split <;> decide
  · dsimp only
    split
    · rwa [String.toList_ofList]
    · rw [String.toList_ofList, List.all_flatMap, List.all_eq_true]
      intro c hc
      split
      · decide
      · rw [List.all_cons, List.all_nil, Bool.and_true, List.all_eq_true.mp hdigits c hc]

/-- The text of data that starts on the line of its key or dash: that of a scalar or of an empty
collection. -/
def lineText? (indent column : Nat) : Data → Option String
  | .null => some "null"
  | .bool b => some (jsonBool b)
  | .int n => some (toString n)
  | .float x => some (floatText x)
  | .text s => some (scalarText true (indent + indentWidth) column s)
  | .list [] => some "[]"
  | .map [] => some "\x7b\x7d"
  | _ => none

section LineText

variable {column : Nat} {data : Data} {text : String}

theorem afterIndicator_of_lineText? (h : lineText? indent (indent + 2) data = some text) :
    afterIndicator indent data = " " ++ text := by
  rw [lineText?.eq_def] at h
  split at h <;> cases h <;> rw [afterIndicator] <;> rfl

theorem afterKey_of_lineText? (h : lineText? indent (column + 1) data = some text) :
    afterKey indent column data = " " ++ text := by
  rw [lineText?.eq_def] at h
  split at h <;> cases h <;> rw [afterKey] <;> rfl

private theorem isCalm_of_lineText? (h : lineText? indent column data = some text) :
    isCalm text.toList = true := by
  rw [lineText?.eq_def] at h
  split at h <;> cases h
  case h_2 b => cases b <;> rfl
  case h_3 n => exact isCalm_of_notMem (Markdown.feed_notMem_number (all_isNumberChar_repr n))
  case h_4 x => exact isCalm_of_notMem (Markdown.feed_notMem_number (all_isNumberChar_floatText x))
  case h_5 s => exact isCalm_scalarText (Nat.succ_pos _) _ _ _
  all_goals rfl

end LineText

private theorem isCalm_blank_append {text : String} (h : isCalm text.toList = true) :
    isCalm (" " ++ text).toList = true := by
  rw [String.toList_append]
  exact isCalm_append rfl h

/-- A nested sequence or mapping on lines of its own. -/
theorem isCalm_below (indent : Nat) {text : String} (h : IsEntry text) :
    isCalm ("\n" ++ Text.spaces indent ++ text).toList = true := by
  have htext : ("\n" ++ Text.spaces indent ++ text).toList =
      '\n' :: (List.replicate indent ' ' ++ text.toList) := by
    simp [toList_spaces]
  rw [htext]
  exact isCalm_feed (breaksDashes_blanks _ h.2) (isCalm_append (isCalm_blanks _) h.1)

private theorem exists_afterIndicator_eq (indent : Nat) (data : Data) :
    ∃ text, afterIndicator indent data = " " ++ text := by
  cases hline : lineText? indent (indent + 2) data with
  | some text => exact ⟨text, afterIndicator_of_lineText? hline⟩
  | none =>
    match data, hline with
    | .list (item :: rest), _ => exact ⟨_, afterIndicator.eq_def _ _⟩
    | .map (entry :: rest), _ => exact ⟨_, afterIndicator.eq_def _ _⟩

mutual
theorem isCalm_afterIndicator (indent : Nat) (data : Data) :
    isCalm (afterIndicator indent data).toList = true := by
  cases hline : lineText? indent (indent + 2) data with
  | some text =>
    rw [afterIndicator_of_lineText? hline]
    exact isCalm_blank_append (isCalm_of_lineText? hline)
  | none =>
    match data, hline with
    | .list (item :: rest), _ =>
      rw [afterIndicator]
      exact isCalm_blank_append (isEntry_stack _ (List.cons_ne_nil _ _)
        (isEntry_of_mem_itemTexts _ (item :: rest))).1
    | .map (entry :: rest), _ =>
      rw [afterIndicator]
      exact isCalm_blank_append (isEntry_stack _ (List.cons_ne_nil _ _)
        (isEntry_of_mem_entryTexts _ (entry :: rest))).1

theorem isCalm_afterKey (indent column : Nat) (data : Data) :
    isCalm (afterKey indent column data).toList = true := by
  cases hline : lineText? indent (column + 1) data with
  | some text =>
    rw [afterKey_of_lineText? hline]
    exact isCalm_blank_append (isCalm_of_lineText? hline)
  | none =>
    match data, hline with
    | .list (item :: rest), _ =>
      rw [afterKey]
      exact isCalm_below _ (isEntry_stack _ (List.cons_ne_nil _ _)
        (isEntry_of_mem_itemTexts _ (item :: rest)))
    | .map (entry :: rest), _ =>
      rw [afterKey]
      exact isCalm_below _ (isEntry_stack _ (List.cons_ne_nil _ _)
        (isEntry_of_mem_entryTexts _ (entry :: rest)))

theorem isEntry_of_mem_itemTexts (indent : Nat) (items : List Data) :
    ∀ text ∈ itemTexts indent items, IsEntry text := by
  match items with
  | [] =>
    rw [itemTexts]
    exact List.forall_mem_nil _
  | item :: rest =>
    intro text htext
    rw [itemTexts] at htext
    rcases List.mem_cons.mp htext with rfl | htext
    · obtain ⟨after, hafter⟩ := exists_afterIndicator_eq indent item
      have hcalm := isCalm_afterIndicator indent item
      rw [IsEntry, String.toList_append]
      refine ⟨isCalm_append rfl hcalm, ?_⟩
      rw [hafter, String.toList_append]
      rfl
    · exact isEntry_of_mem_itemTexts indent rest text htext

theorem isEntry_of_mem_entryTexts (indent : Nat) (entries : List (String × Data)) :
    ∀ text ∈ entryTexts indent entries, IsEntry text := by
  match entries with
  | [] =>
    rw [entryTexts]
    exact List.forall_mem_nil _
  | (key, value) :: rest =>
    intro text htext
    rw [entryTexts] at htext
    rcases List.mem_cons.mp htext with rfl | htext
    · obtain ⟨hcalm, hbreaks⟩ := isCalm_keyText indent key
      have hindicator := isCalm_afterIndicator indent value
      have hkey := isCalm_afterKey indent (keyEnd indent key) value
      rw [IsEntry, String.toList_append]
      refine ⟨isCalm_append hcalm ?_, breaksDashes_append hbreaks _⟩
      split
      · exact hkey
      · exact hindicator
    · exact isEntry_of_mem_entryTexts indent rest text htext
end

private theorem entryTexts_ne_nil (indent : Nat) {entries : List (String × Data)}
    (h : entries ≠ []) :
    entryTexts indent entries ≠ [] := by
  obtain ⟨⟨key, value⟩, rest, rfl⟩ := List.exists_cons_of_ne_nil h
  exact List.cons_ne_nil _ _

/-- No line of a YAML text starts with three dashes. -/
theorem not_isPrefix_of_mem_stack {entries : List (String × Data)} (h : entries ≠ [])
    {line : List Char} (hline : line ∈ Text.splitLines (stack 0 (entryTexts 0 entries)).toList) :
    ¬List.replicate 3 '-' <+: line := by
  obtain ⟨hcalm, hstart⟩ := isEntry_stack 0 (entryTexts_ne_nil 0 h)
    (isEntry_of_mem_entryTexts 0 entries)
  exact not_isPrefix_of_mem_splitLines hcalm hstart hline

end Runbook.Yaml
