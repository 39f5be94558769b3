import Runbook.Proofs.LoweredCalls

/-!
# Places of errors

An error of lowering names an element and gives a path. The path leads through the children of the
tree, and the error is right about the place if the path leads to the element or to a child of it
(`Value.pointsAt`). Children that leave no trace are left out while an element is lowered, but they
count in the path.

One error is wrong about its place. A code block may hold its text in a code element, between blank
texts. If the code element holds no plain text, the error gives the path of the first child of the
block, which may be a blank text in front of the code element.
-/

namespace Runbook

/-! ## Following paths -/

namespace Value

/-- What a path through children leads to. -/
def follow? : TreePath → Value → Option Value
  | [], value => some value
  | index :: rest, .element _ _ children => children[index]?.bind (follow? rest)
  | _ :: _, _ => none

def isNamed (name : String) : Value → Bool
  | .element own _ _ => own == name
  | _ => false

/-- The path leads to an element with the given name, or to a child of one. -/
def pointsAt (value : Value) (path : TreePath) (name : String) : Bool :=
  (value.follow? path).any (isNamed name) || (value.follow? path.dropLast).any (isNamed name)

def isCodeBlock : Value → Bool
  | .element name _ _ => Tag.ofName? name == some (.leaf .codeBlock)
  | _ => false

/-- The path leads to a blank text that is the first child of a code block, and another child is a
code element. -/
def Misplaces (value : Value) (path : TreePath) : Prop :=
  ∃ parent index block blank code, path = parent ++ [0] ∧ value.follow? parent = some block ∧
    block.isCodeBlock = true ∧ value.follow? path = some blank ∧ blank.isBlank = true ∧
    value.follow? (parent ++ [index]) = some code ∧ code.isNamed "code" = true

def isListName (name : String) : Bool :=
  match Tag.ofName? name with
  | some (.list _) => true
  | _ => false

mutual
/-- A list of the tree has items in its props, which are no children. -/
def listsItems : Value → Bool
  | .element name props children =>
    (isListName name && (props.lookup "items").isSome) || anyListsItems children
  | _ => false

/-- One of the trees has a list with items in its props. -/
def anyListsItems : List Value → Bool
  | [] => false
  | child :: rest => listsItems child || anyListsItems rest
end

/-- What an error says about a place below the value. The path leads somewhere, and if the error
names an element, it leads there or to a child of it, unless it leads to a blank text. -/
def Reports (value : Value) (path : TreePath) (element : Option String) (problem : LowerProblem) :
    Prop :=
  ∃ node, value.follow? path = some node ∧ ∀ name, element = some name →
    if node.isBlank then name = "code" ∧ problem = .notText ∧ value.Misplaces path
    else value.pointsAt path name = true

section

variable {name : String} {props : List (String × Value)} {children : List Value} {index : Nat}
  {child node value : Value} {path : TreePath} {problem : LowerProblem}

private theorem follow?_cons (h : children[index]? = some child) (rest : TreePath) :
    (element name props children).follow? (index :: rest) = child.follow? rest := by
  rw [follow?, h, Option.bind_some]

private theorem pointsAt_of_isNamed (h : value.follow? path = some node)
    (hname : node.isNamed name = true) : value.pointsAt path name = true := by
  rw [pointsAt, h, Option.any_some, hname, Bool.true_or]

private theorem pointsAt_cons {own : String} (h : children[index]? = some child) {rest : TreePath}
    (hpoints : child.pointsAt rest name = true) :
    (element own props children).pointsAt (index :: rest) name = true := by
  rw [pointsAt, Bool.or_eq_true] at hpoints
  rw [pointsAt, Bool.or_eq_true, follow?_cons h]
  rcases hpoints with hself | hparent
  · exact .inl hself
  · cases rest with
    -- The empty path has no shorter one, and leads to the child both times.
    | nil => exact .inl hparent
    | cons next more =>
      rw [List.dropLast_cons_cons, follow?_cons h]
      exact .inr hparent

theorem Misplaces.cons (h : children[index]? = some child) {rest : TreePath}
    (hrest : child.Misplaces rest) : (element name props children).Misplaces (index :: rest) := by
  obtain ⟨parent, place, block, blank, code, rfl, hblock, hkind, hfirst, hblank, hcode, hname⟩ :=
    hrest
  refine ⟨index :: parent, place, block, blank, code, rfl, ?_, hkind, ?_, hblank, ?_, hname⟩
  · rw [follow?_cons h, hblock]
  · rw [follow?_cons h, hfirst]
  · rw [List.cons_append, follow?_cons h, hcode]

theorem Misplaces.isBlank (h : value.Misplaces path) (hnode : value.follow? path = some node) :
    node.isBlank = true := by
  obtain ⟨parent, index, block, blank, code, -, -, -, hfirst, hblank, -⟩ := h
  rwa [← Option.some.inj (hfirst.symm.trans hnode)]

private theorem not_isNamed_of_isBlank (h : value.isBlank = true) : value.isNamed name = false := by
  cases value with
  | element => cases h
  | _ => rfl

/-- A code block has another name than a code element. -/
theorem not_isNamed_of_isCodeBlock (h : value.isCodeBlock = true) :
    value.isNamed "code" = false := by
  cases value with
  | element own props children =>
    refine beq_eq_false_iff_ne.mpr fun hown ↦ ?_
    rw [isCodeBlock, hown] at h
    exact absurd h (by decide)
  | _ => cases h

private theorem Misplaces.not_pointsAt (h : value.Misplaces path) :
    ¬value.pointsAt path "code" = true := by
  obtain ⟨parent, index, block, blank, code, rfl, hblock, hkind, hfirst, hblank, -⟩ := h
  rw [pointsAt, hfirst, List.dropLast_concat, hblock, Option.any_some, Option.any_some,
    not_isNamed_of_isBlank hblank, not_isNamed_of_isCodeBlock hkind]
  exact Bool.false_ne_true

/-- What is right about a place below a child is right below its parent. -/
theorem Reports.cons {culprit : Option String} (h : children[index]? = some child)
    {rest : TreePath} (hrest : child.Reports rest culprit problem) :
    (element name props children).Reports (index :: rest) culprit problem := by
  obtain ⟨node, hnode, hnames⟩ := hrest
  refine ⟨node, by rw [follow?_cons h, hnode], fun own hown ↦ ?_⟩
  have hright := hnames own hown
  by_cases hblank : node.isBlank = true
  · rw [if_pos hblank] at hright ⊢
    exact ⟨hright.1, hright.2.1, hright.2.2.cons h⟩
  · rw [if_neg hblank] at hright ⊢
    exact pointsAt_cons h hright

private theorem reports_none (h : value.follow? path = some node) :
    value.Reports path none problem :=
  ⟨node, h, fun _ hname ↦ absurd hname.symm (Option.some_ne_none _)⟩

private theorem reports_self : (element name props children).Reports [] (some name) problem := by
  refine ⟨element name props children, rfl, fun own hown ↦ ?_⟩
  obtain rfl : name = own := Option.some.inj hown
  exact pointsAt_of_isNamed rfl (beq_self_eq_true _)

private theorem reports_child (h : children[index]? = some child) (hblank : child.isBlank = false) :
    (element name props children).Reports [index] (some name) problem := by
  refine ⟨child, by rw [follow?_cons h]; rfl, fun own hown ↦ ?_⟩
  obtain rfl : name = own := Option.some.inj hown
  rw [hblank, if_neg Bool.false_ne_true, pointsAt, Bool.or_eq_true]
  exact .inr (beq_self_eq_true _)

end

end Value

/-- An error with a place is right about a place below the value, which stands at the path. -/
def LowerError.Within (path : TreePath) (value : Value) : LowerError → Prop
  | .located found element problem =>
    ∃ rest, found = path ++ rest ∧ value.Reports rest element problem
  | _ => True

private theorem LowerError.within_located {path : TreePath} {value : Value}
    {element : Option String} {problem : LowerProblem} (h : value.Reports [] element problem) :
    (located path element problem).Within path value :=
  ⟨[], (List.append_nil path).symm, h⟩

theorem LowerError.Within.below {path : TreePath} {name : String} {props : List (String × Value)}
    {children : List Value} {index : Nat} {child : Value} {error : LowerError}
    (h : error.Within (path ++ [index]) child) (hchild : children[index]? = some child) :
    error.Within path (.element name props children) := by
  cases error with
  | located found element problem =>
    obtain ⟨rest, rfl, hreports⟩ := h
    exact ⟨index :: rest, by rw [List.append_assoc, List.singleton_append], hreports.cons hchild⟩
  | _ => exact trivial

/-! ## Errors of one element -/

namespace Site

variable {α β : Type} {site : Site}

/-- An error of the result has a place below the element. -/
def Reports (site : Site) (result : Except LowerError α) : Prop :=
  ∀ error, result = .error error → error.Within site.path site.element

private theorem reports_ok (value : α) : site.Reports (.ok value) := by
  intro error h
  cases h

private theorem reports_error {error : LowerError} (h : error.Within site.path site.element) :
    site.Reports (.error error : Except LowerError α) := by
  rintro other heq
  rwa [← Except.error.inj heq]

private theorem reports_refuse (problem : LowerProblem) :
    site.Reports (site.refuse problem : Except LowerError α) :=
  reports_error (LowerError.within_located Value.reports_self)

theorem Reports.bind {first : Except LowerError α} {next : α → Except LowerError β}
    (h : site.Reports first) (hnext : ∀ value, site.Reports (next value)) :
    site.Reports (first >>= next) := by
  cases first with
  | error error => exact reports_error (h error rfl)
  | ok value => exact hnext value

private theorem Reports.ite {condition : Bool} {first second : Except LowerError α}
    (hfirst : site.Reports first) (hsecond : site.Reports second) :
    site.Reports (if condition then first else second) := by
  cases condition with
  | true => exact hfirst
  | false => exact hsecond

private theorem reports_mapM {f : α → Except LowerError β} (h : ∀ item, site.Reports (f item))
    (items : List α) : site.Reports (items.mapM f) := by
  induction items with
  | nil => exact reports_ok _
  | cons item rest ih =>
    rw [List.mapM_cons]
    exact .bind (h item) fun _ ↦ .bind ih fun _ ↦ reports_ok _

private theorem reports_made (read : Read α) : site.Reports (site.made read) := by
  cases read with
  | ok value => exact reports_ok value
  | error fault => exact reports_refuse _

private theorem reports_require (name : String) (others : List String) :
    site.Reports (site.require name others) := by
  rw [require]
  split
  · exact reports_ok _
  · exact reports_refuse _

private theorem reports_text : site.Reports site.text := by
  rw [text]
  split
  · exact reports_ok _
  · exact reports_refuse _

private theorem reports_listed (value : Value) : site.Reports (listed value) := by
  rw [listed]
  refine .ite ?_ (reports_ok _)
  split
  · exact reports_ok _
  · exact reports_error trivial

/-- What a child reports, its parent reports. -/
theorem Reports.below {index : Nat} {name : String} {props : List (String × Value)}
    {children : List Value} {result : Except LowerError α}
    (h : (⟨site.path ++ [index], name, props, children⟩ : Site).Reports result)
    (hchild : site.children[index]? = some (.element name props children)) :
    site.Reports result :=
  fun error heq ↦ (h error heq).below hchild

end Site

/-! ## Errors of leaves and containers -/

section

open Site

variable {site : Site}

/-- The code element of a code block may stand behind blank texts, and then its error is put at the
first of them. -/
theorem within_codeText {props : List (String × Value)} {children : List Value}
    (htag : Tag.ofName? site.name = some (.leaf .codeBlock))
    (h : (site.children.filter fun child ↦ !child.isBlank) = [.element "code" props children]) :
    (LowerError.located (site.path ++ [0]) (some "code") .notText).Within site.path
      site.element := by
  have hmem : Value.element "code" props children ∈ site.children :=
    List.mem_of_mem_filter (h ▸ List.mem_singleton_self _)
  obtain ⟨index, hindex⟩ := List.getElem?_of_mem hmem
  obtain ⟨first, hfirst⟩ : ∃ first, site.children[0]? = some first := by
    cases hchildren : site.children with
    | nil => rw [hchildren] at hmem; cases hmem
    | cons first rest => exact ⟨first, rfl⟩
  have hfollow : site.element.follow? [0] = some first := by
    rw [element, Value.follow?_cons hfirst, Value.follow?]
  refine ⟨[0], rfl, first, hfollow, fun name hname ↦ ?_⟩
  obtain rfl : "code" = name := Option.some.inj hname
  by_cases hblank : first.isBlank = true
  · rw [if_pos hblank]
    refine ⟨rfl, rfl, [], index, site.element, first, .element "code" props children, rfl, rfl, ?_,
      hfollow, hblank, ?_, rfl⟩
    · rw [element, Value.isCodeBlock, htag]; rfl
    · rw [List.nil_append, element, Value.follow?_cons hindex, Value.follow?]
  · -- If the first child is not blank, it is the code element itself.
    rw [if_neg hblank]
    have hkept : first ∈ site.children.filter fun child ↦ !child.isBlank := by
      refine List.mem_filter.mpr ⟨List.mem_of_getElem? hfirst, ?_⟩
      rw [Bool.not_eq_true] at hblank
      rw [hblank, Bool.not_false]
    rw [h, List.mem_singleton] at hkept
    exact Value.pointsAt_of_isNamed hfollow (by rw [hkept]; rfl)

private theorem reports_classLanguage (className : Value) :
    site.Reports (classLanguage className) := by
  rw [classLanguage]
  split
  · split
    · exact reports_ok _
    · exact reports_ok _
  · exact reports_error trivial

private theorem reports_codeFields (htag : Tag.ofName? site.name = some (.leaf .codeBlock)) :
    site.Reports (codeFields site) := by
  rw [codeFields]
  refine .ite (reports_ok _) ?_
  split
  · next props children hcode =>
    have htext : site.Reports (⟨site.path ++ [0], "code", props, children⟩ : Site).text := by
      rw [text]
      split
      · exact reports_ok _
      · exact reports_error (within_codeText htag hcode)
    -- Either way of finding the language goes on to the text of the code element.
    exact .ite
      (.bind (reports_classLanguage _) fun _ ↦ .bind htext fun _ ↦ reports_ok _)
      (.bind (reports_ok _) fun _ ↦ .bind htext fun _ ↦ reports_ok _)
  · exact .bind reports_text fun _ ↦ reports_ok _

private theorem reports_fromEntries {α : Type} (entries : List (Value × Value))
    (read : Record → Read α) :
    site.Reports (fromEntries site entries read) :=
  .ite (reports_made _) (reports_error trivial)

private theorem reports_rowValues (emptyCell : Value) (rows : List Value) :
    site.Reports (rowValues emptyCell rows) := by
  induction rows with
  | nil => exact reports_ok _
  | cons row rest ih =>
    rw [rowValues]
    split
    · exact reports_error trivial
    · exact .bind ih fun _ ↦ reports_ok _

private theorem reports_tableLeaf : site.Reports (tableLeaf site) :=
  .bind (reports_listed _) fun _ ↦ .bind (reports_listed _) fun _ ↦
    .bind (reports_rowValues _ _) fun _ ↦ reports_made _

private theorem reports_markdownLeaf : site.Reports (markdownLeaf site) := by
  refine .ite (.bind ?_ fun content ↦ ?_) (.bind (reports_ok _) fun content ↦ ?_)
  · cases htext : site.text with
    | error error => exact reports_error (reports_text error htext)
    | ok content => exact reports_ok _
  -- Wherever the content comes from, it has to be a text.
  all_goals
    dsimp only
    split
    · exact reports_ok _
    · exact reports_refuse _

private theorem reports_criterionOf (value : Value) : site.Reports (criterionOf site value) := by
  cases value with
  | text | member | staged | criterion => exact reports_ok _
  | mapping entries => exact reports_fromEntries _ _
  | _ => exact reports_refuse _

private theorem reports_routeOf (value : Value) : site.Reports (routeOf site value) := by
  cases value with
  | route => exact reports_ok _
  | mapping entries => exact reports_fromEntries _ _
  | _ => exact reports_refuse _

private theorem reports_choiceOf (value : Value) : site.Reports (choiceOf site value) := by
  cases value with
  | choice => exact reports_ok _
  | mapping entries => exact reports_fromEntries _ _
  | _ => exact reports_refuse _

private theorem reports_assignmentOf : site.Reports (assignmentOf site) := by
  rw [assignmentOf]
  split
  · exact .bind (reports_require _ _) fun _ ↦ reports_made _
  · exact reports_refuse _

/-- A list without its first members starts with the member at that place. -/
theorem getElem?_of_drop_eq_cons {α : Type} {whole rest : List α} {index : Nat} {item : α}
    (h : whole.drop index = item :: rest) :
    whole[index]? = some item ∧ whole.drop (index + 1) = rest := by
  constructor
  · rw [← List.head?_drop, h, List.head?_cons]
  · rw [← List.tail_drop, h, List.tail_cons]

private theorem reports_assignmentsOf {index : Nat} {children : List Value}
    (h : site.children.drop index = children) :
    site.Reports (assignmentsOf site index children) := by
  induction children generalizing index with
  | nil => exact reports_ok _
  | cons child rest ih =>
    obtain ⟨hchild, hrest⟩ := getElem?_of_drop_eq_cons h
    unfold assignmentsOf
    split
    · exact ih hrest
    · next hkept =>
      split
      · exact .bind (Reports.below reports_assignmentOf hchild) fun _ ↦
          .bind (ih hrest) fun _ ↦ reports_ok _
      · have hblank : child.isBlank = false := by
          rw [Bool.or_eq_true, not_or, Bool.not_eq_true, Bool.not_eq_true] at hkept
          exact hkept.2
        exact reports_error ⟨[index], rfl, Value.reports_child hchild hblank⟩

private theorem reports_assignGroupLeaf : site.Reports (assignGroupLeaf site) :=
  .bind (reports_assignmentsOf rfl) fun _ ↦ .ite (reports_made _) (reports_ok _)

private theorem reports_messageOf : site.Reports (messageOf site) :=
  .ite (.bind reports_text fun _ ↦ reports_ok _) (reports_ok _)

private theorem reports_questionLeaf : site.Reports (questionLeaf site) :=
  .bind (reports_listed _) fun _ ↦ .bind (reports_mapM reports_choiceOf _) fun _ ↦
    .bind (reports_require _ _) fun _ ↦ .bind (reports_require _ _) fun _ ↦ reports_made _

private theorem reports_functionNamed (registry : Registry) (name shown : String) :
    site.Reports (functionNamed registry site name shown) := by
  rw [functionNamed]
  split
  · exact reports_ok _
  · exact reports_refuse _

private theorem reports_calledFunction (registry : Registry) :
    site.Reports (calledFunction registry site) := by
  refine .bind (reports_require _ _) fun callee ↦ ?_
  cases callee with
  | handle callee => exact .ite (reports_ok _) (reports_refuse _)
  | text name => exact reports_functionNamed _ _ _
  | member m => exact reports_functionNamed _ _ _
  | _ => exact reports_refuse _

private theorem reports_xmlDraft : site.Reports (xmlDraft site) :=
  .bind (reports_require _ _) fun _ ↦ reports_ok _

private theorem reports_conditionOf : site.Reports (conditionOf site) := by
  rw [conditionOf]
  split
  · exact reports_ok _
  · refine .bind (reports_require _ _) fun test ↦ ?_
    split
    · exact .bind (reports_made _) fun _ ↦ reports_ok _
    · exact reports_ok _

private theorem reports_draftContainer (tag : ContainerTag) :
    site.Reports (draftContainer tag site) := by
  cases tag with
  | blockquote | indent | executionContext | otherwise => exact reports_ok _
  | xmlBlock => exact reports_xmlDraft
  | division => exact .ite reports_xmlDraft (reports_ok _)
  | step | onStatus =>
    exact .bind (reports_require _ _) fun _ ↦ .bind (reports_require _ _) fun _ ↦ reports_ok _
  | spawnAgent =>
    exact .bind (reports_require _ _) fun _ ↦ .bind (reports_require _ _) fun _ ↦
      .bind (reports_require _ _) fun _ ↦ reports_ok _
  | ifTrue => exact .bind reports_conditionOf fun _ ↦ reports_ok _
  | loop => exact .bind (reports_require _ _) fun _ ↦ reports_ok _

end

/-! ## Errors of lowering -/

namespace Lower

variable {α β : Type} {action : Lower α} {error : LowerError} {path : TreePath} {value : Value}

/-- An error of the action has a place below the value, which stands at the path. -/
def Reports (action : Lower α) (path : TreePath) (value : Value) : Prop :=
  ∀ error, action.Raises error → error.Within path value

private theorem reports_pure (result : α) : (pure result : Lower α).Reports path value := by
  rintro error ⟨before, after, hrun⟩
  cases (Prod.mk.inj hrun).1

private theorem reports_throw (h : error.Within path value) :
    (throw error : Lower α).Reports path value := by
  rintro raised ⟨before, after, hrun⟩
  rwa [← Except.error.inj (Prod.mk.inj hrun).1]

private theorem reports_lift (site : Site) {result : Except LowerError α}
    (h : site.Reports result) :
    (liftM result : Lower α).Reports site.path site.element := by
  rintro error ⟨before, after, hrun⟩
  exact h error (Prod.mk.inj hrun).1

theorem Reports.bind {next : α → Lower β} (h : action.Reports path value)
    (hnext : ∀ middle, (next middle).Reports path value) :
    (action >>= next).Reports path value := by
  intro error hraises
  rcases hraises.of_bind with hfirst | ⟨middle, hrest⟩
  · exact h error hfirst
  · exact hnext middle error hrest

theorem Reports.below {name : String} {props : List (String × Value)} {children : List Value}
    {index : Nat} (h : action.Reports (path ++ [index]) value)
    (hchild : children[index]? = some value) :
    action.Reports path (.element name props children) :=
  fun error hraises ↦ (h error hraises).below hchild

end Lower

section

open Lower

variable {registry : Registry}

private theorem reports_allocateOutput {path : TreePath} {value : Value} (stem : String) :
    (allocateOutput stem).Reports path value := by
  rintro error ⟨before, after, hrun⟩
  cases (Prod.mk.inj hrun).1

private theorem reports_callLeaf (site : Site) :
    (callLeaf registry site).Reports site.path site.element := by
  refine .bind (reports_lift site (reports_calledFunction registry)) fun callee ↦ ?_
  dsimp only
  split
  · exact .bind (reports_allocateOutput _) fun _ ↦ reports_pure _
  · exact .bind (reports_pure _) fun _ ↦ reports_pure _

private theorem reports_lowerLeaf {tag : LeafTag} (site : Site)
    (htag : Tag.ofName? site.name = some (.leaf tag)) :
    (lowerLeaf registry tag site).Reports site.path site.element := by
  cases tag with
  | codeBlock =>
    exact reports_lift site (.bind (reports_codeFields htag) fun _ ↦ Site.reports_made _)
  | rule => exact reports_pure _
  | table => exact reports_lift site reports_tableLeaf
  | markdown => exact reports_lift site reports_markdownLeaf
  | successCriteria =>
    exact reports_lift site (.bind (Site.reports_listed _) fun _ ↦
      .bind (Site.reports_mapM reports_criterionOf _) fun _ ↦ Site.reports_ok _)
  | offerNext =>
    exact reports_lift site (.bind (Site.reports_listed _) fun _ ↦
      .bind (Site.reports_mapM reports_routeOf _) fun _ ↦ Site.reports_ok _)
  | call => exact reports_callLeaf site
  | assign => exact .bind (reports_lift site reports_assignmentOf) fun _ ↦ reports_pure _
  | assignGroup => exact reports_lift site reports_assignGroupLeaf
  | breakLoop | endCommand =>
    exact .bind (reports_lift site reports_messageOf) fun _ ↦
      reports_lift site (Site.reports_made _)
  | askUser => exact reports_lift site reports_questionLeaf

private theorem reports_unsupported {path : TreePath} {value : Value} {α : Type} :
    (refuseAt path none (.unsupportedChild value.typeName) : Lower α).Reports path value :=
  reports_throw (LowerError.within_located (Value.reports_none rfl))

mutual
/-- Paths follow the children of inline elements. -/
theorem reports_lowerInline (path : TreePath) (value : Value) :
    (lowerInline path value).Reports path value := by
  cases value with
  | element name props children =>
    have hchildren := reports_lowerInlines path name props children 0 children rfl
    rw [lowerInline]
    cases htag : InlineTag.ofName? name with
    | none => exact reports_throw (LowerError.within_located Value.reports_self)
    | some tag =>
      cases tag with
      | bold | italic => exact .bind hchildren fun _ ↦ reports_pure _
      | code =>
        exact .bind (reports_lift ⟨path, name, props, children⟩ Site.reports_text) fun _ ↦
          reports_pure _
      | link =>
        exact .bind (reports_lift ⟨path, name, props, children⟩ (Site.reports_require _ _)) fun _ ↦
          .bind hchildren fun _ ↦
            reports_lift ⟨path, name, props, children⟩ (Site.reports_made _)
      | lineBreak => exact reports_pure _
  | _ =>
    unfold lowerInline
    split
    · exact reports_pure _
    · exact reports_unsupported

/-- The children from an index on, which are among the children of the element at the path. -/
theorem reports_lowerInlines (path : TreePath) (name : String) (props : List (String × Value))
    (whole : List Value) (index : Nat) (children : List Value)
    (h : whole.drop index = children) :
    (lowerInlines path index children).Reports path (.element name props whole) := by
  cases children with
  | nil => exact reports_pure _
  | cons child rest =>
    obtain ⟨hchild, hrest⟩ := getElem?_of_drop_eq_cons h
    have hothers := reports_lowerInlines path name props whole (index + 1) rest hrest
    rw [lowerInlines]
    split
    · exact hothers
    · exact .bind ((reports_lowerInline _ child).below hchild) fun _ ↦
        .bind hothers fun _ ↦ reports_pure _
end

/-! ## Errors of trees -/

/-- Where the root of a tree stands. A root that is no document is the only child of one. -/
def Value.rootPath : Value → TreePath
  | .element name _ _ => if documentNames.contains name then [] else [0]
  | _ => [0]

private theorem reports_aloneBlocks {child value : Value} {path : TreePath} {block : Lower Block}
    {inline : Lower Inline} (hblock : block.Reports path value)
    (hinline : inline.Reports path value) :
    (aloneBlocks child block inline).Reports path value := by
  rw [aloneBlocks]
  split
  · exact reports_pure _
  · exact reports_pure _
  · exact .bind hblock fun _ ↦ reports_pure _
  · exact .bind hinline fun _ ↦ reports_pure _

private theorem reports_frontmatterValue (site : Site) :
    site.Reports (frontmatterValue site.props) := by
  rw [frontmatterValue]
  dsimp only
  split
  · exact Site.reports_error trivial
  · exact Site.reports_ok _

private theorem Value.itemsProp_of_listsItems {site : Site} {ordered : Bool}
    (htag : Tag.ofName? site.name = some (.list ordered)) (h : site.element.listsItems = false) :
    itemsProp site.props = .ok [] := by
  rw [Site.element, listsItems, isListName, htag, Bool.true_and, Bool.or_eq_false_iff] at h
  rw [itemsProp, Option.isNone_iff_eq_none.mp (Option.isSome_eq_false_iff.mp h.1)]

private theorem Value.anyListsItems_of_element {site : Site} (h : site.element.listsItems = false) :
    anyListsItems site.children = false := by
  rw [Site.element, listsItems, Bool.or_eq_false_iff] at h
  exact h.2

variable (registry) in
/-- Paths follow the children of blocks, as long as lists take no items from their props: such items
would be counted from zero, like the children after them. The children from an index on are among
the children of the element at the path. -/
def placeInvariant : LoweringInvariant registry where
  block path value action := value.listsItems = false → action.Reports path value
  blocks path index _ children action := Value.anyListsItems children = false →
    ∀ name props whole, whole.drop index = children →
      action.Reports path (.element name props whole)
  each _ _ values action := values = [] → ∀ path value, action.Reports path value
  items site index children action := Value.anyListsItems children = false →
    site.children.drop index = children → action.Reports site.path site.element
  tree root action := root.listsItems = false → action.Reports root.rootPath root
  noElement _ _ := reports_unsupported
  unknown _ _ := reports_throw (LowerError.within_located Value.reports_self)
  paragraph _ _ := .bind (reports_lowerInlines _ _ _ _ 0 _ rfl) fun _ ↦ reports_pure _
  heading {site _} _ _ := .bind (reports_lowerInlines _ _ _ _ 0 _ rfl) fun _ ↦
    .bind (reports_lift site (Site.reports_made _)) fun _ ↦ reports_pure _
  list {site _ _ _} htag hlowered hothers h := by
    have hnone := Value.itemsProp_of_listsItems htag h
    rw [hnone]
    exact .bind (hlowered [] hnone rfl _ _) fun _ ↦
      .bind (hothers (Value.anyListsItems_of_element h) rfl) fun _ ↦
        .bind (reports_lift site (Site.reports_made _)) fun _ ↦ reports_pure _
  item _ hchildren h :=
    .bind (hchildren (Value.anyListsItems_of_element h) _ _ _ rfl) fun _ ↦ reports_pure _
  container {site tag _} _ hchildren h :=
    .bind (reports_lift site (reports_draftContainer tag)) fun _ ↦
      .bind (hchildren (Value.anyListsItems_of_element h) _ _ _ rfl) fun _ ↦
        .bind (reports_lift site (Site.reports_made _)) fun _ ↦ reports_pure _
  leaf {site _} htag _ := .bind (reports_lowerLeaf site htag) fun _ ↦ reports_pure _
  blocksNil _ _ _ _ _ _ _ _ := reports_pure _
  -- A child that is skipped still takes its index.
  blocksPass _ hothers h name props whole hwhole := by
    rw [Value.anyListsItems, Bool.or_eq_false_iff] at h
    exact hothers h.2 name props whole (getElem?_of_drop_eq_cons hwhole).2
  blocksInline _ hothers h name props whole hwhole := by
    obtain ⟨hchild, hrest⟩ := getElem?_of_drop_eq_cons hwhole
    rw [Value.anyListsItems, Bool.or_eq_false_iff] at h
    exact .bind ((reports_lowerInline _ _).below hchild) fun node ↦
      hothers node h.2 name props whole hrest
  blocksCons hfirst hothers h name props whole hwhole := by
    obtain ⟨hchild, hrest⟩ := getElem?_of_drop_eq_cons hwhole
    rw [Value.anyListsItems, Bool.or_eq_false_iff] at h
    exact .bind ((hfirst h.1).below hchild) fun _ ↦
      .bind (hothers h.2 name props whole hrest) fun _ ↦ reports_pure _
  eachNil _ _ _ _ _ := reports_pure _
  eachCons _ _ h := absurd h (List.cons_ne_nil _ _)
  itemsNil _ _ _ _ := reports_pure _
  itemsPass _ hothers h hwhole := by
    rw [Value.anyListsItems, Bool.or_eq_false_iff] at h
    exact hothers h.2 (getElem?_of_drop_eq_cons hwhole).2
  itemsCons hfirst hothers h hwhole := by
    obtain ⟨hchild, hrest⟩ := getElem?_of_drop_eq_cons hwhole
    rw [Value.anyListsItems, Value.listsItems, Bool.or_eq_false_iff, Bool.or_eq_false_iff] at h
    exact .bind ((hfirst h.1.2 _ _ _ rfl).below hchild) fun _ ↦
      .bind (hothers h.2 hrest) fun _ ↦ reports_pure _
  itemsRefused {_ index _} _ hblank _ hwhole :=
    reports_throw ⟨[index], rfl, Value.reports_child (getElem?_of_drop_eq_cons hwhole).1 hblank⟩
  document {site _} hpath hname hchildren h := by
    have hroot : site.element.rootPath = site.path := by
      rw [Site.element, Value.rootPath, if_pos hname, hpath]
    rw [hroot]
    exact .bind (reports_lift site (reports_frontmatterValue site)) fun _ ↦
      .bind (hchildren (Value.anyListsItems_of_element h) _ _ _ rfl) fun _ ↦
        reports_lift site (Site.reports_made _)
  alone {site _} hpath hname hmade h := by
    have hroot : site.element.rootPath = site.path := by
      rw [Site.element, Value.rootPath, if_neg (by rw [hname]; exact Bool.false_ne_true), hpath]
    rw [hroot]
    exact .bind (reports_aloneBlocks (hmade h) (reports_lowerInline _ _)) fun _ ↦ reports_pure _
  noTree {root _} hroot herror _ := by
    have hpath : root.rootPath = [0] := by
      cases root with
      | element name props children => exact absurd rfl (hroot name props children)
      | _ => rfl
    rw [hpath]
    rcases herror with rfl | ⟨typeName, rfl⟩
    · exact reports_throw trivial
    · exact reports_throw (LowerError.within_located (Value.reports_none rfl))

private theorem reports_lowerTree {root : Value} (h : root.listsItems = false) :
    (lowerTree registry root).Reports root.rootPath root :=
  (placeInvariant registry).tree_lowerTree root h

/-- An error with a place gives a path that leads somewhere. The path leads to the element that the
error names or to a child of it, except that a code element behind blank text in a code block is
looked for at the place of the blank text. -/
theorem pointsAt_iff_not_misplaces {root : Value} (hitems : root.listsItems = false)
    {before after : Counters} {path : TreePath} {element : Option String} {problem : LowerProblem}
    (h : (lowerTree registry root).run.run before =
      (.error (.located path element problem), after)) :
    ∃ rest, path = root.rootPath ++ rest ∧ (root.follow? rest).isSome = true ∧
      ∀ name, element = some name →
        (root.pointsAt rest name = true ↔ ¬root.Misplaces rest) ∧
          (root.Misplaces rest → name = "code" ∧ problem = .notText) := by
  obtain ⟨rest, rfl, node, hnode, hnames⟩ := reports_lowerTree hitems _ ⟨before, after, h⟩
  refine ⟨rest, rfl, by rw [hnode, Option.isSome_some], fun name hname ↦ ?_⟩
  have hright := hnames name hname
  by_cases hblank : node.isBlank = true
  · rw [if_pos hblank] at hright
    obtain ⟨rfl, hproblem, hmisplaces⟩ := hright
    refine ⟨iff_of_false ?_ (not_not_intro hmisplaces), fun _ ↦ ⟨rfl, hproblem⟩⟩
    exact hmisplaces.not_pointsAt
  · rw [if_neg hblank] at hright
    -- A misplaced error leads to a blank text, and this one does not.
    have hplaced : ¬root.Misplaces rest := fun hmisplaces ↦ hblank (hmisplaces.isBlank hnode)
    exact ⟨iff_of_true hright hplaced, fun hmisplaces ↦ absurd hmisplaces hplaced⟩

/-- A list with text between its items is refused at the place of the text. -/
theorem pointsAt_iff_not_misplaces_item :
    let root : Value := .element "ul" [] [.null, .element "li" [] [], .text "x"]
    ∃ rest, [0, 2] = root.rootPath ++ rest ∧ (root.follow? rest).isSome = true ∧
      ∀ name, some "ul" = some name →
        (root.pointsAt rest name = true ↔ ¬root.Misplaces rest) ∧
          (root.Misplaces rest → name = "code" ∧ LowerProblem.notListItem = .notText) :=
  @pointsAt_iff_not_misplaces {} _ rfl [] [] _ _ _ rfl

/-- A line feed in front of the code element of a code block takes the place of its error. -/
theorem not_pointsAt_spaced_code :
    let code : Value := .element "code" [] [.element "b" [] [.text "x"]]
    let root : Value := .element "document" [] [.element "pre" [] [.text "\n", code]]
    root.listsItems = false ∧
      ((lowerTree {} root).run.run []).1 = .error (.located [0, 0] (some "code") .notText) ∧
      root.follow? [0, 1] = some code ∧ root.pointsAt [0, 0] "code" = false :=
  ⟨rfl, rfl, rfl, rfl⟩

end

end Runbook
