import Runbook.Proofs.Fences

/-!
# Fences of code blocks

The fence of a code block is made for its content: it is longer than every run of fence characters
that the content holds. What the scan for runs finds is said by one equivalence
(`exists_le_runLengths_iff`): its runs are the runs of the text, and the run that is still open at
the start of the text counts with the characters that go on with it.
-/

namespace Runbook

namespace Text

/-- A pattern cannot reach over a character that it does not hold. -/
theorem isInfix_append_cons_iff {pattern front back : List Char} {c : Char} (hc : c ∉ pattern) :
    pattern <:+: front ++ c :: back ↔ pattern <:+: front ∨ pattern <:+: back := by
  have hstart : ∀ part, part <+: c :: back → c ∉ part → part = [] := by
    intro part hpart hmem
    rcases List.prefix_cons_iff.mp hpart with rfl | ⟨rest, rfl, -⟩
    · rfl
    · exact absurd List.mem_cons_self hmem
  constructor
  · intro h
    rcases List.infix_append_iff.mp h with hfront | hback | ⟨left, right, rfl, hleft, hright⟩
    · exact .inl hfront
    · rcases List.infix_cons_iff.mp hback with hprefix | hrest
      · rw [hstart _ hprefix hc]
        exact .inl List.nil_infix
      · exact .inr hrest
    · rw [hstart _ hright fun hmem ↦ hc (List.mem_append_right _ hmem), List.append_nil]
      exact .inl hleft.isInfix
  · rintro (hfront | hback)
    · exact List.infix_append_iff.mpr (.inl hfront)
    · exact List.infix_append_iff.mpr (.inr (.inl (List.infix_cons hback)))

private theorem isInfix_joinChars (separator : List Char) {part : List Char}
    {parts : List (List Char)} (h : part ∈ parts) : part <:+: joinChars separator parts := by
  induction parts with
  | nil => exact absurd h List.not_mem_nil
  | cons first rest ih =>
    cases rest with
    | nil =>
      simp [joinChars, List.mem_singleton.mp h]
    | cons next more =>
      rw [joinChars]
      rcases List.mem_cons.mp h with rfl | hrest
      · rw [List.append_assoc]
        exact (List.prefix_append _ _).isInfix
      · exact (ih hrest).trans (List.suffix_append _ _).isInfix

private theorem isInfix_of_mem_lines {line text : String} (h : line ∈ lines text) :
    line.toList <:+: text.toList := by
  obtain ⟨chars, hchars, rfl⟩ := List.mem_map.mp h
  have hjoined := isInfix_joinChars ['\n'] hchars
  rwa [joinChars_splitLines, ← String.toList_ofList (l := chars)] at hjoined

end Text

namespace Markdown

/-! ## Runs of fence characters -/

private theorem exists_le_runLengths_iff (n current : Nat) (text : List Char) :
    (∃ run ∈ runLengths current text, n ≤ run) ↔
      List.replicate n fenceChar <:+: List.replicate current fenceChar ++ text := by
  induction text generalizing current with
  | nil =>
    rw [runLengths, List.append_nil, List.infix_replicate_iff, List.length_replicate]
    simp
  | cons c rest ih =>
    rw [runLengths]
    split
    · next hc =>
      -- The open run grows by this character.
      rw [ih, hc, List.replicate_succ', List.append_assoc, List.singleton_append]
    · next hc =>
      -- The open run ends here, and no run reaches over this character.
      have hmem : c ∉ List.replicate n fenceChar := fun h ↦ hc (List.eq_of_mem_replicate h)
      rw [List.exists_mem_cons_iff, ih, Text.isInfix_append_cons_iff hmem,
        List.infix_replicate_iff, List.length_replicate, List.replicate_zero, List.nil_append]
      simp

private theorem exists_le_runLengths_zero_iff (n : Nat) (text : List Char) :
    (∃ run ∈ runLengths 0 text, n ≤ run) ↔ List.replicate n fenceChar <:+: text := by
  rw [exists_le_runLengths_iff, List.replicate_zero, List.nil_append]

private theorem toList_fence (content : String) :
    (fence content).toList = List.replicate (fenceLength content) fenceChar := by
  rw [fence, String.toList_ofList]

/-- The scan keeps the runs of three and more characters. If there are any, the fence is one longer
than the longest of them, and otherwise it has three characters itself. -/
theorem fenceLength_cases (content : String) :
    (fenceLength content = 3 ∧ ∀ run ∈ runLengths 0 content.toList, run < 3) ∨
      ∃ longest ∈ runLengths 0 content.toList, fenceLength content = longest + 1 ∧ 3 ≤ longest ∧
        ∀ run ∈ runLengths 0 content.toList, run ≤ longest := by
  rw [fenceLength]
  cases hlongest : ((runLengths 0 content.toList).filter (3 ≤ ·)).max? with
  | none =>
    rw [List.max?_eq_none_iff, List.filter_eq_nil_iff] at hlongest
    exact .inl ⟨rfl, fun run hrun ↦ by simpa using hlongest run hrun⟩
  | some longest =>
    obtain ⟨hmem, hmost⟩ := List.max?_eq_some_iff.mp hlongest
    obtain ⟨hrun, hlong⟩ := List.mem_filter.mp hmem
    have hthree : 3 ≤ longest := of_decide_eq_true hlong
    refine .inr ⟨longest, hrun, rfl, hthree, fun run hrun ↦ ?_⟩
    by_cases hkept : 3 ≤ run
    · exact hmost run (List.mem_filter.mpr ⟨hrun, decide_eq_true hkept⟩)
    · omega

private theorem three_le_fenceLength (content : String) : 3 ≤ fenceLength content := by
  rcases fenceLength_cases content with ⟨hlength, -⟩ | ⟨longest, -, hlength, hthree, -⟩
  · exact hlength.ge
  · omega

private theorem lt_fenceLength {content : String} {n : Nat}
    (h : List.replicate n fenceChar <:+: content.toList) : n < fenceLength content := by
  obtain ⟨run, hrun, hn⟩ := (exists_le_runLengths_zero_iff n content.toList).mpr h
  rcases fenceLength_cases content with ⟨hlength, hshort⟩ | ⟨longest, -, hlength, -, hmost⟩
  · have := hshort run hrun
    omega
  · have := hmost run hrun
    omega

private theorem fenceLength_eq_or (content : String) :
    fenceLength content = 3 ∨
      List.replicate (fenceLength content - 1) fenceChar <:+: content.toList := by
  rcases fenceLength_cases content with ⟨hlength, -⟩ | ⟨longest, hrun, hlength, -⟩
  · exact .inl hlength
  · rw [hlength, Nat.add_sub_cancel, ← exists_le_runLengths_zero_iff]
    exact .inr ⟨longest, hrun, Nat.le_refl _⟩

/-! ## Code blocks -/

/-- A code block has its content between two fences. -/
theorem run_codeBlock (config : Config) (state : EmitState) (language : Option String)
    (content : Content) (tool : String) (cache : Cache) :
    ∃ body, ((Emission.content content).run tool cache).1 = .ok body ∧
      (((Block.leaf (.codeBlock language content)).emit config state).run tool cache).1 =
        .ok (fence body ++ language.getD "" ++ "\n" ++ body ++ "\n" ++ fence body) := by
  cases content with
  | text value => exact ⟨value, rfl, rfl⟩
  | staged value => exact ⟨_, rfl, rfl⟩

private theorem feed_notMem_fence (content : String) : '\n' ∉ (fence content).toList := by
  rw [toList_fence]
  intro h
  exact absurd (List.eq_of_mem_replicate h) (by decide)

/-- The lines of a text between two lines. -/
theorem lines_between {opening closing : String} (hopening : '\n' ∉ opening.toList)
    (hclosing : '\n' ∉ closing.toList) (body : String) :
    Text.lines (opening ++ "\n" ++ body ++ "\n" ++ closing) =
      opening :: (Text.lines body ++ [closing]) := by
  have htext : (opening ++ "\n" ++ body ++ "\n" ++ closing).toList =
      opening.toList ++ '\n' :: (body.toList ++ '\n' :: closing.toList) := by
    simp
  rw [Text.lines, htext, Text.splitLines_append hopening, Text.splitLines_append_feed,
    Text.splitLines_of_notMem hclosing, Text.lines]
  simp

/-- **The fence of a code block encloses its content.** Whatever the content is, written out or
fetched, the fence has at least three characters and more than any run of fence characters in the
content, and no more than it needs. So the block has the lines of the content between its first and
its last line, and none of them holds the fence. -/
theorem run_codeBlock_encloses (config : Config) (state : EmitState) (language : Option String)
    (hlanguage : '\n' ∉ (language.getD "").toList) (content : Content) (tool : String)
    (cache : Cache) :
    ∃ body text count, ((Emission.content content).run tool cache).1 = .ok body ∧
      (((Block.leaf (.codeBlock language content)).emit config state).run tool cache).1 =
        .ok text ∧
      (fence body).toList = List.replicate count fenceChar ∧ 3 ≤ count ∧
      (∀ n, List.replicate n fenceChar <:+: body.toList → n < count) ∧
      (count = 3 ∨ List.replicate (count - 1) fenceChar <:+: body.toList) ∧
      (Text.lines text).head? = some (fence body ++ language.getD "") ∧
      (Text.lines text).getLast? = some (fence body) ∧
      (Text.lines text).tail.dropLast = Text.lines body ∧
      ∀ line ∈ Text.lines body, ¬(fence body).toList <:+: line.toList := by
  obtain ⟨body, hbody, htext⟩ := run_codeBlock config state language content tool cache
  have hopening : '\n' ∉ (fence body ++ language.getD "").toList := by
    rw [String.toList_append, List.mem_append, not_or]
    exact ⟨feed_notMem_fence body, hlanguage⟩
  have hlines := lines_between hopening (feed_notMem_fence body) body
  refine ⟨body, _, fenceLength body, hbody, htext, toList_fence body, three_le_fenceLength body,
    fun n hn ↦ lt_fenceLength hn, fenceLength_eq_or body, ?_, ?_, ?_, ?_⟩
  · rw [hlines, List.head?_cons]
  · rw [hlines, List.getLast?_cons, List.getLast?_concat]
    rfl
  · rw [hlines, List.tail_cons, List.dropLast_concat]
  · intro line hline hheld
    rw [toList_fence] at hheld
    exact Nat.lt_irrefl _ (lt_fenceLength (hheld.trans (Text.isInfix_of_mem_lines hline)))

/-- Runs of four, two and three characters, at both ends of the content and on a line of their
own. -/
theorem run_codeBlock_encloses_runs :
    let content := "````a``\n```\n````"
    '\n' ∉ ((some "text").getD "").toList ∧ ∃ text,
      (((Block.leaf (.codeBlock (some "text") (.text content))).emit {} {}).run "jq" {}).1 =
        .ok text ∧
      (fence content).toList = List.replicate 5 fenceChar ∧
      (Text.lines text).tail.dropLast = ["````a``", "```", "````"] := by
  intro content
  have hlanguage : '\n' ∉ ((some "text").getD "").toList := by decide
  obtain ⟨body, text, count, hbody, htext, -, -, -, -, -, -, hlines, -⟩ :=
    run_codeBlock_encloses {} {} (some "text") hlanguage (.text content) "jq" {}
  obtain rfl : content = body := Except.ok.inj hbody
  exact ⟨hlanguage, text, htext, by decide, hlines.trans (by decide)⟩

end Markdown

end Runbook
