import Mathlib.Data.List.SplitBy
import Mathlib.Data.List.TakeWhile
import Runbook.Proofs.LoweredCalls
import Runbook.Proofs.Spelling

/-!
# Gathering children into paragraphs

Lowering walks over the children of a block once and gathers inline nodes until a block comes. What
it makes of them can be said without the walk. Children that leave no trace are dropped, and the
others are cut into block elements and maximal groups of inline children (`Sibling.groups`). A block
element becomes its block. A group becomes one paragraph without the blank texts at its front, and a
group of blank texts becomes nothing (`lowerGroup`).

The walk knows one thing about what it has gathered: either it is nothing, or its first node is not
blank. In the first case the next child starts a group, and in the second it is in the middle of one
(`lowerBlocks_eq`).
-/

namespace Runbook

/-! ## Groups of children -/

/-- An element whose name is none of the inline ones. -/
def Value.isBlockElement : Value → Bool
  | .element name _ _ => (InlineTag.ofName? name).isNone
  | _ => false

/-- A child together with its index among its siblings. -/
abbrev Sibling := Value × Nat

namespace Sibling

/-- The child is no block element. -/
def isInline (child : Sibling) : Bool := !child.1.isBlockElement

/-- The children that leave a trace. -/
def kept (children : List Sibling) : List Sibling :=
  children.filter fun child ↦ !child.1.isSkipped

/-- Children cut at block elements: each of these by itself, and between them maximal groups of
inline children. -/
def groups (children : List Sibling) : List (List Sibling) :=
  children.splitBy fun first second ↦ first.isInline && second.isInline

end Sibling

section

variable (registry : Registry) (parent : TreePath)

/-- The nodes that inline children become, without the blank texts in front. -/
def lowerLeading (group : List Sibling) : Lower (List Inline) :=
  (group.dropWhile fun child ↦ child.1.isBlank).mapM fun child ↦
    lowerInline (parent ++ [child.2]) child.1

/-- What a group is lowered to. A block element becomes its block, blank texts become nothing, and
other inline children become one paragraph, without the blank texts in front. -/
def lowerGroup (group : List Sibling) : Lower (List Block) :=
  if group.any fun child ↦ child.1.isBlockElement then
    group.mapM fun child ↦ lowerBlock registry (parent ++ [child.2]) child.1
  else if group.all fun child ↦ child.1.isBlank then pure []
  else do return [.leaf (.paragraph (← lowerLeading parent group))]

/-- What children are lowered to, group by group. -/
def lowerGroups (children : List Sibling) : Lower (List Block) := do
  return (← (Sibling.groups children).mapM (lowerGroup registry parent)).flatten

end

/-! ## Roles -/

private theorem Value.childRole_eq (child : Value) :
    child.childRole =
      if child.isSkipped then .skipped
      else if child.isBlockElement then .block
      else if child.isBlank then .blank
      else .inline := by
  cases child with
  | element name props children =>
    simp only [childRole, isSkipped, isBlockElement, isBlank, text?, Option.isNone_iff_eq_none]
    by_cases h : InlineTag.ofName? name = none
    · simp [h]
    · simp [h, Option.isSome_iff_ne_none.mpr h]
  | _ => rfl

namespace Lower

variable {α β : Type}

/-- After an action only the values matter that it can end with. -/
theorem bind_congr_of_returns {action : Lower α} {next other : α → Lower β}
    (h : ∀ value, action.Returns value → next value = other value) :
    (action >>= next) = action >>= other := by
  apply ExceptT.ext
  apply StateT.ext
  intro counters
  change ExceptT.bindCont next (action.run.run counters).1 (action.run.run counters).2 =
    ExceptT.bindCont other (action.run.run counters).1 (action.run.run counters).2
  rcases hrun : action.run.run counters with ⟨result, after⟩
  cases result with
  | error error => rfl
  | ok value => rw [ExceptT.bindCont, h value ⟨counters, after, hrun⟩]; rfl

end Lower

/-- A child that is not blank becomes a node that is not blank. -/
theorem isBlank_of_lowerInline {path : TreePath} {child : Value} {node : Inline}
    (hchild : child.isBlank = false) (h : (lowerInline path child).Returns node) :
    node.isBlank = false := by
  cases child with
  | element name props children =>
    rw [lowerInline] at h
    cases htag : InlineTag.ofName? name with
    | none =>
      simp only [htag] at h
      exact absurd h (Lower.not_returns_throw _)
    | some tag =>
      simp only [htag] at h
      cases tag with
      | bold | italic | code =>
        obtain ⟨inner, -, h⟩ := h.of_bind
        rw [← h.eq_of_pure]
        rfl
      | link =>
        obtain ⟨target, -, h⟩ := h.of_bind
        obtain ⟨nodes, -, h⟩ := h.of_bind
        obtain ⟨url, -, h⟩ := bind_eq_ok_iff.mp (Site.eq_ok_of_made h.eq_ok_of_lift)
        cases h
        rfl
      | lineBreak =>
        rw [← h.eq_of_pure]
        rfl
  | text | member =>
    simp only [lowerInline, inlineScalar?, Value.plainText?, Value.text?, Option.map_some] at h
    rw [← h.eq_of_pure]
    exact hchild
  | int n =>
    simp only [lowerInline, inlineScalar?, Value.plainText?, Option.map_some] at h
    rw [← h.eq_of_pure]
    exact isBlankText_repr n
  | float x =>
    simp only [lowerInline, inlineScalar?, Value.plainText?, Option.map_some] at h
    rw [← h.eq_of_pure]
    exact x.isBlankText_literal
  | staged value =>
    simp only [lowerInline, inlineScalar?] at h
    rw [← h.eq_of_pure]
    rfl
  | _ =>
    simp only [lowerInline, inlineScalar?, Value.plainText?, Value.text?, Option.map_none] at h
    exact absurd h (Lower.not_returns_throw _)

/-! ## Cutting children into groups -/

namespace Sibling

variable {child : Sibling} {front back : List Sibling}

/-- A block element shares its group with nothing. -/
theorem groups_append_block (h : child.1.isBlockElement = true) :
    groups (front ++ child :: back) = groups front ++ [child] :: groups back := by
  have hbefore : groups (front ++ child :: back) = groups front ++ groups ([child] ++ back) := by
    refine List.splitBy_append fun _ _ ↦ ?_
    simp [isInline, h]
  have hbehind : groups ([child] ++ back) = groups [child] ++ groups back := by
    refine List.splitBy_append fun last hlast _ _ ↦ ?_
    obtain rfl : child = last := Option.some.inj hlast
    simp [isInline, h]
  rw [hbefore, hbehind]
  rfl

/-- Inline children are one group. -/
theorem groups_of_inline (hne : front ≠ []) (h : ∀ child ∈ front, child.isInline = true) :
    groups front = [front] := by
  refine List.splitBy_of_isChain hne (List.Pairwise.isChain ?_)
  refine List.pairwise_of_forall_mem_list fun first hfirst second hsecond ↦ ?_
  rw [h first hfirst, h second hsecond]
  rfl

end Sibling

section

variable {registry : Registry} {parent : TreePath} {child : Sibling} {front back : List Sibling}

private theorem lowerGroups_of_inline (h : ∀ child ∈ front, child.isInline = true) :
    lowerGroups registry parent front = lowerGroup registry parent front := by
  by_cases hne : front = []
  · subst hne
    simp [lowerGroups, lowerGroup, Sibling.groups]
  · rw [lowerGroups, Sibling.groups_of_inline hne h]
    simp

private theorem lowerGroups_append_block (h : child.1.isBlockElement = true) :
    lowerGroups registry parent (front ++ child :: back) = do
      let blocks ← lowerGroups registry parent front
      let block ← lowerBlock registry (parent ++ [child.2]) child.1
      let others ← lowerGroups registry parent back
      return blocks ++ block :: others := by
  have hsingle : lowerGroup registry parent [child] = do
      return [← lowerBlock registry (parent ++ [child.2]) child.1] := by
    simp [lowerGroup, h]
  simp [lowerGroups, Sibling.groups_append_block h, hsingle]

/-- Leading blank texts go without a trace. -/
theorem lowerLeading_of_blank (h : front.all (fun child ↦ child.1.isBlank) = true) :
    lowerLeading parent front = pure [] := by
  have hdrop : (front.dropWhile fun child ↦ child.1.isBlank) = [] :=
    List.dropWhile_eq_nil_iff.mpr (List.all_eq_true.mp h)
  rw [lowerLeading, hdrop, List.mapM_nil]

/-- Behind a child that is not blank nothing is left out. -/
theorem exists_lowerLeading (parent : TreePath)
    (h : front.all (fun child ↦ child.1.isBlank) = false) :
    ∃ (first : Sibling) (more : List Sibling), first.1.isBlank = false ∧
      ∀ back, lowerLeading parent (front ++ back) = do
        let node ← lowerInline (parent ++ [first.2]) first.1
        let nodes ← more.mapM fun child ↦ lowerInline (parent ++ [child.2]) child.1
        let others ← back.mapM fun child ↦ lowerInline (parent ++ [child.2]) child.1
        return node :: (nodes ++ others) := by
  cases hdrop : front.dropWhile fun child ↦ child.1.isBlank with
  | nil =>
    have hblank : front.all (fun child ↦ child.1.isBlank) = true :=
      List.all_eq_true.mpr (List.dropWhile_eq_nil_iff.mp hdrop)
    exact absurd (h.symm.trans hblank) Bool.false_ne_true
  | cons first more =>
    have hfirst := List.head?_dropWhile_not (fun child : Sibling ↦ child.1.isBlank) front
    rw [hdrop] at hfirst
    refine ⟨first, more, hfirst, fun back ↦ ?_⟩
    rw [lowerLeading, List.dropWhile_append, hdrop]
    simp

/-- Inline children become what is gathered from them. -/
theorem lowerGroup_of_inline (h : ∀ child ∈ front, child.isInline = true) :
    lowerGroup registry parent front = do return gathered (← lowerLeading parent front) := by
  have hany : front.any (fun child ↦ child.1.isBlockElement) = false := by
    rw [List.any_eq_false]
    intro child hchild
    simpa [Sibling.isInline] using h child hchild
  rw [lowerGroup, hany, if_neg Bool.false_ne_true]
  by_cases hblank : front.all (fun child ↦ child.1.isBlank) = true
  · rw [if_pos hblank, lowerLeading_of_blank hblank]
    rfl
  · obtain ⟨first, more, hfirst, hlower⟩ :=
      exists_lowerLeading parent (Bool.eq_false_iff.mpr hblank)
    have hnodes := hlower []
    rw [List.append_nil] at hnodes
    rw [if_neg hblank, hnodes, bind_assoc, bind_assoc]
    apply Lower.bind_congr_of_returns
    intro node hnode
    have hblank := isBlank_of_lowerInline hfirst hnode
    simp [gathered, hblank]

/-- A child that is no block joins what was gathered, unless it is blank and nothing was. -/
theorem lowerBlocks_cons_inline {child : Value} (hskipped : child.isSkipped = false)
    (hblock : child.isBlockElement = false) (index : Nat) (run : List Inline) (rest : List Value) :
    lowerBlocks registry parent index run (child :: rest) =
      if child.isBlank && run.isEmpty then lowerBlocks registry parent (index + 1) run rest
      else
        (lowerInline (parent ++ [index]) child >>= fun node ↦
          lowerBlocks registry parent (index + 1) (run ++ [node]) rest) := by
  rw [lowerBlocks, child.childRole_eq, hskipped, hblock]
  by_cases hblank : child.isBlank = true <;> simp [hblank]

/-- What one more inline child adds to those that were read before. -/
theorem lowerLeading_append_bind (child : Value) (index : Nat)
    (proceed : List Inline → Lower (List Block)) :
    (do
      let run ← lowerLeading parent front
      if child.isBlank && run.isEmpty then proceed run
      else do
        let node ← lowerInline (parent ++ [index]) child
        proceed (run ++ [node])) =
      (do proceed (← lowerLeading parent (front ++ [(child, index)]))) := by
  by_cases hfront : front.all (fun child ↦ child.1.isBlank) = true
  · rw [lowerLeading_of_blank hfront, pure_bind]
    by_cases hblank : child.isBlank = true
    · have hall : (front ++ [(child, index)]).all (fun child ↦ child.1.isBlank) = true := by
        rw [List.all_append, hfront]
        simpa using hblank
      rw [lowerLeading_of_blank hall, pure_bind, hblank]
      rfl
    · have hlast : lowerLeading parent (front ++ [(child, index)]) = do
          return [← lowerInline (parent ++ [index]) child] := by
        have hdrop : (front.dropWhile fun child ↦ child.1.isBlank) = [] :=
          List.dropWhile_eq_nil_iff.mpr (List.all_eq_true.mp hfront)
        simp [lowerLeading, List.dropWhile_append, hdrop, hblank]
      rw [hlast]
      simp [hblank]
  · obtain ⟨first, more, -, hlower⟩ :=
      exists_lowerLeading parent (Bool.eq_false_iff.mpr hfront)
    have hbefore := hlower []
    rw [List.append_nil] at hbefore
    rw [hbefore, hlower]
    simp

/-- **The walk and the groups agree.** The children in `front` have been read and gathered, and the
walk goes on with the others. -/
theorem lowerBlocks_eq (index : Nat) (children : List Value)
    (h : ∀ child ∈ front, child.isInline = true) :
    (do lowerBlocks registry parent index (← lowerLeading parent front) children) =
      lowerGroups registry parent (front ++ Sibling.kept (children.zipIdx index)) := by
  induction children generalizing front index with
  | nil =>
    simp only [lowerBlocks]
    rw [List.zipIdx_nil, Sibling.kept, List.filter_nil, List.append_nil, lowerGroups_of_inline h,
      lowerGroup_of_inline h]
  | cons child rest ih =>
    rw [List.zipIdx_cons, Sibling.kept]
    by_cases hskipped : child.isSkipped = true
    · simp only [lowerBlocks]
      rw [child.childRole_eq, if_pos hskipped, List.filter_cons_of_neg (by simpa using hskipped),
        ← Sibling.kept, ← ih _ h]
    rw [List.filter_cons_of_pos (by simpa using hskipped), ← Sibling.kept]
    by_cases hblock : child.isBlockElement = true
    · have hrest := ih (index + 1) (List.forall_mem_nil _)
      rw [lowerLeading_of_blank rfl, pure_bind, List.nil_append] at hrest
      simp only [lowerBlocks]
      rw [child.childRole_eq, if_neg hskipped, if_pos hblock, lowerGroups_append_block hblock,
        lowerGroups_of_inline h, lowerGroup_of_inline h, ← hrest]
      simp
    · have hinline : ∀ sibling ∈ front ++ [(child, index)], sibling.isInline = true := by
        intro sibling hmem
        rcases List.mem_append.mp hmem with hfront | hchild
        · exact h sibling hfront
        · rw [List.mem_singleton.mp hchild, Sibling.isInline]
          simpa using hblock
      simp only [lowerBlocks_cons_inline (Bool.eq_false_iff.mpr hskipped)
        (Bool.eq_false_iff.mpr hblock)]
      rw [lowerLeading_append_bind, ih _ hinline, List.append_assoc]
      rfl

private theorem lowerBlocks_eq_groups (children : List Value) :
    lowerBlocks registry parent 0 [] children =
      lowerGroups registry parent (Sibling.kept children.zipIdx) := by
  have h : (do lowerBlocks registry parent 0 (← lowerLeading parent []) children) =
      lowerGroups registry parent ([] ++ Sibling.kept children.zipIdx) :=
    lowerBlocks_eq 0 children (List.forall_mem_nil _)
  rwa [lowerLeading_of_blank rfl, pure_bind] at h

/-- A child that stands alone is lowered as the only one of its siblings. -/
theorem aloneBlocks_eq_lowerBlocks (child : Value) :
    aloneBlocks child (lowerBlock registry (parent ++ [0]) child)
      (lowerInline (parent ++ [0]) child) = lowerBlocks registry parent 0 [] [child] := by
  rw [aloneBlocks, lowerBlocks, child.childRole_eq]
  by_cases hskipped : child.isSkipped = true
  · simp [hskipped, lowerBlocks, gathered]
  by_cases hblock : child.isBlockElement = true
  · simp [hskipped, hblock, lowerBlocks, gathered]
  by_cases hblank : child.isBlank = true
  · simp [hskipped, hblock, hblank, lowerBlocks, gathered]
  · simp [hskipped, hblock, hblank, lowerBlocks]

/-! ## What stands between two blocks -/

private theorem lowerGroups_of_blank (h : front.all (fun child ↦ child.1.isBlank) = true) :
    lowerGroups registry parent front = pure [] := by
  have hinline : ∀ child ∈ front, child.isInline = true := by
    intro child hchild
    have hblank : child.1.isBlank = true := List.all_eq_true.mp h child hchild
    rw [Sibling.isInline]
    revert hblank
    cases child.1 <;> simp [Value.isBlank, Value.text?, Value.isBlockElement]
  rw [lowerGroups_of_inline hinline, lowerGroup_of_inline hinline, lowerLeading_of_blank h]
  rfl

private theorem Sibling.kept_append (front back : List Sibling) :
    kept (front ++ back) = kept front ++ kept back :=
  List.filter_append _ _

private theorem Sibling.kept_cons_block {child : Value} (h : child.isBlockElement = true)
    (index : Nat) (rest : List Sibling) :
    kept ((child, index) :: rest) = (child, index) :: kept rest := by
  refine List.filter_cons_of_pos ?_
  revert h
  cases child <;> simp [Value.isSkipped, Value.isBlockElement]

/-- Two block elements with nothing but blanks between them become neighbours. -/
theorem exists_adjacent {first second : Value} (hfirst : first.isBlockElement = true)
    (hsecond : second.isBlockElement = true) {front between back : List Value}
    (hbetween : ∀ child ∈ between, child.isSkipped = true ∨ child.isBlank = true)
    {blocks : List Block}
    (h : (lowerBlocks registry parent 0 []
      (front ++ first :: (between ++ second :: back))).Returns blocks) :
    ∃ (before after : List Block) (block neighbour : Block),
      blocks = before ++ block :: neighbour :: after ∧
      (lowerBlock registry (parent ++ [front.length]) first).Returns block ∧
      (lowerBlock registry (parent ++ [front.length + 1 + between.length]) second).Returns
        neighbour := by
  have hblank : ∀ index, (Sibling.kept (between.zipIdx index)).all
      (fun child ↦ child.1.isBlank) = true := by
    intro index
    rw [List.all_eq_true]
    intro child hchild
    obtain ⟨hmem, hkept⟩ := List.mem_filter.mp hchild
    rcases hbetween child.1 (List.fst_mem_of_mem_zipIdx hmem) with hskipped | hblank
    · simp [hskipped] at hkept
    · exact hblank
  rw [lowerBlocks_eq_groups, List.zipIdx_append, Sibling.kept_append, List.zipIdx_cons,
    Sibling.kept_cons_block hfirst, List.zipIdx_append, Sibling.kept_append, List.zipIdx_cons,
    Sibling.kept_cons_block hsecond, lowerGroups_append_block hfirst] at h
  rw [lowerGroups_append_block hsecond, lowerGroups_of_blank (hblank _)] at h
  obtain ⟨before, -, h⟩ := h.of_bind
  obtain ⟨block, hblock, h⟩ := h.of_bind
  obtain ⟨others, hothers, h⟩ := h.of_bind
  obtain ⟨none, hnone, hothers⟩ := hothers.of_bind
  obtain ⟨neighbour, hneighbour, hothers⟩ := hothers.of_bind
  obtain ⟨after, -, hothers⟩ := hothers.of_bind
  refine ⟨before, after, block, neighbour, ?_, ?_, ?_⟩
  · rw [← h.eq_of_pure, ← hothers.eq_of_pure, ← hnone.eq_of_pure]
    rfl
  · simpa using hblock
  · simpa using hneighbour

private theorem eq_conditional_of_lowerBlock {path : TreePath} {props : List (String × Value)}
    {children : List Value} {block : Block}
    (h : (lowerBlock registry path (.element "If" props children)).Returns block) :
    ∃ test body, block = .container (.conditional test) body := by
  have htag : Tag.ofName? "If" = some (.container .ifTrue) := by decide
  rw [lowerBlock, htag] at h
  obtain ⟨draft, hdraft, h⟩ := h.of_bind
  obtain ⟨body, -, h⟩ := h.of_bind
  obtain ⟨head, hhead, h⟩ := h.of_bind
  obtain ⟨condition, -, hdraft⟩ := bind_eq_ok_iff.mp hdraft.eq_ok_of_lift
  cases hdraft
  obtain ⟨test, -, hhead⟩ := bind_eq_ok_iff.mp (Site.eq_ok_of_made hhead.eq_ok_of_lift)
  cases hhead
  exact ⟨test, body, h.eq_of_pure.symm⟩

private theorem eq_elseBranch_of_lowerBlock {path : TreePath} {props : List (String × Value)}
    {children : List Value} {block : Block}
    (h : (lowerBlock registry path (.element "Else" props children)).Returns block) :
    ∃ body, block = .container .elseBranch body := by
  have htag : Tag.ofName? "Else" = some (.container .otherwise) := by decide
  rw [lowerBlock, htag] at h
  obtain ⟨draft, hdraft, h⟩ := h.of_bind
  obtain ⟨body, -, h⟩ := h.of_bind
  obtain ⟨head, hhead, h⟩ := h.of_bind
  cases hdraft.eq_ok_of_lift
  cases Site.eq_ok_of_made hhead.eq_ok_of_lift
  exact ⟨body, h.eq_of_pure.symm⟩

end

/-- **Lowering children loses, duplicates and reorders nothing.** Whatever the children are,
lowering them one by one is the same as dropping those that leave no trace, cutting the others into
block elements and maximal groups of inline children, and lowering group by group: a block element
to its block, blank texts to nothing, any other group to one paragraph without the blank texts at
its front. The same names are allocated, and if one side fails, so does the other. A child that
stands alone, as the root of a tree or an item of a list, is lowered by the same rule.

So blank texts and children that leave no trace never come between an `If` and its `Else`. -/
theorem lowerBlocks_eq_lowerGroups (registry : Registry) (parent : TreePath) :
    (∀ children, lowerBlocks registry parent 0 [] children =
      lowerGroups registry parent (Sibling.kept children.zipIdx)) ∧
    (∀ child, aloneBlocks child (lowerBlock registry (parent ++ [0]) child)
        (lowerInline (parent ++ [0]) child) =
      lowerGroups registry parent (Sibling.kept [(child, 0)])) ∧
    ∀ (front between back : List Value) (props otherProps : List (String × Value))
      (children otherChildren : List Value) (blocks : List Block),
      (∀ child ∈ between, child.isSkipped = true ∨ child.isBlank = true) →
      (lowerBlocks registry parent 0 [] (front ++ .element "If" props children ::
        (between ++ .element "Else" otherProps otherChildren :: back))).Returns blocks →
      ∃ before test body otherwise after, blocks = before ++
        .container (.conditional test) body :: .container .elseBranch otherwise :: after := by
  refine ⟨lowerBlocks_eq_groups, fun child ↦ ?_, ?_⟩
  · rw [aloneBlocks_eq_lowerBlocks, lowerBlocks_eq_groups]
    rfl
  · intro front between back props otherProps children otherChildren blocks hbetween h
    have hif : (Value.element "If" props children).isBlockElement = true :=
      show (InlineTag.ofName? "If").isNone = true by decide
    have helse : (Value.element "Else" otherProps otherChildren).isBlockElement = true :=
      show (InlineTag.ofName? "Else").isNone = true by decide
    obtain ⟨before, after, block, neighbour, rfl, hblock, hneighbour⟩ :=
      exists_adjacent hif helse hbetween h
    obtain ⟨test, body, rfl⟩ := eq_conditional_of_lowerBlock hblock
    obtain ⟨otherwise, rfl⟩ := eq_elseBranch_of_lowerBlock hneighbour
    exact ⟨before, test, body, otherwise, after, rfl⟩

/-- Blank texts, nothing and a truth value between the branches, and a group of which only the first
blank goes. -/
theorem lowerBlocks_eq_lowerGroups_blanks :
    let front : List Value := [.text " ", .text "a", .null, .text " "]
    let between : List Value := [.text "\n ", .null, .bool true, .text ""]
    let children : List Value := front ++ .element "If" [("condition", .bool true)] [.int 3] ::
      (between ++ .element "Else" [] [.element "b" [] [.text "c"]] :: [])
    let blocks : List Block := [.leaf (.paragraph [.text "a", .text " "]),
      .container (.conditional (.bool true)) [.leaf (.paragraph [.text "3"])],
      .container .elseBranch [.leaf (.paragraph [.bold [.text "c"]])]]
    (∀ child ∈ between, child.isSkipped = true ∨ child.isBlank = true) ∧
      (lowerBlocks {} [] 0 [] children).Returns blocks ∧
      (lowerGroups {} [] (Sibling.kept children.zipIdx)).Returns blocks ∧
      ∃ before test body otherwise after, blocks = before ++
        .container (.conditional test) body :: .container .elseBranch otherwise :: after := by
  intro front between children blocks
  have hbetween : ∀ child ∈ between, child.isSkipped = true ∨ child.isBlank = true := by decide
  have hreturns : (lowerBlocks {} [] 0 [] children).Returns blocks := ⟨[], [], rfl⟩
  obtain ⟨hgroups, -, hadjacent⟩ := lowerBlocks_eq_lowerGroups {} []
  exact ⟨hbetween, hreturns, hgroups children ▸ hreturns,
    hadjacent front between [] _ _ _ _ blocks hbetween hreturns⟩

end Runbook
