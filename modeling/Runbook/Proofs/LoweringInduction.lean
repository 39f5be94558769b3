import Runbook.Lowering.Tree

/-!
# Induction over lowering

Lowering goes through a tree by functions that call each other. What is to be shown of every run is
shown of each of their steps, and then follows for whole trees: `LoweringInvariant` holds four
properties, one for each way of lowering, with one field for every step, and
`LoweringInvariant.tree_lowerTree` puts the steps together.

A property is one of actions, so it may be about results, about errors or about the names that are
allocated. The items in a prop of a list are taken to be the values that the prop lists. They are
lowered one by one, whatever it is that lists them (`lowerItemsProp_eq`).
-/

namespace Runbook

/-! ## Runs of lowering -/

namespace Lower

variable {α β : Type} {action : Lower α} {before after : Counters} {value result : α}
  {error : LowerError}

/-- The action ends with a result and takes the counters from one state to another. -/
def Ends (action : Lower α) (before : Counters) (result : α) (after : Counters) : Prop :=
  action.run.run before = (.ok result, after)

theorem Ends.of_pure (h : (pure value : Lower α).Ends before result after) :
    value = result ∧ before = after :=
  ⟨Except.ok.inj (Prod.mk.inj h).1, (Prod.mk.inj h).2⟩

theorem Ends.of_lift {given : Except LowerError α}
    (h : (liftM given : Lower α).Ends before result after) :
    given = .ok result ∧ before = after :=
  ⟨(Prod.mk.inj h).1, (Prod.mk.inj h).2⟩

theorem Ends.of_bind {next : α → Lower β} {result : β}
    (h : (action >>= next).Ends before result after) :
    ∃ middle between, action.Ends before middle between ∧
      (next middle).Ends between result after := by
  change ExceptT.bindCont next (action.run.run before).1 (action.run.run before).2 = _ at h
  rcases hfirst : action.run.run before with ⟨first, between⟩
  rw [hfirst] at h
  cases first with
  | error error => cases (Prod.mk.inj h).1
  | ok middle => exact ⟨middle, between, hfirst, h⟩

theorem not_ends_throw : ¬(throw error : Lower α).Ends before result after := by
  intro h
  cases (Prod.mk.inj h).1

/-- The action can end with the value: it does so from some counters. -/
def Returns (action : Lower α) (value : α) : Prop := ∃ before after, action.Ends before value after

theorem Ends.returns (h : action.Ends before result after) : action.Returns result :=
  ⟨before, after, h⟩

theorem Returns.eq_of_pure (h : (pure value : Lower α).Returns result) : value = result := by
  obtain ⟨before, after, h⟩ := h
  exact h.of_pure.1

theorem Returns.eq_ok_of_lift {given : Except LowerError α}
    (h : (liftM given : Lower α).Returns result) : given = .ok result := by
  obtain ⟨before, after, h⟩ := h
  exact h.of_lift.1

theorem not_returns_throw (error : LowerError) : ¬(throw error : Lower α).Returns result := by
  rintro ⟨before, after, h⟩
  exact not_ends_throw h

theorem Returns.of_bind {next : α → Lower β} {result : β} (h : (action >>= next).Returns result) :
    ∃ middle, action.Returns middle ∧ (next middle).Returns result := by
  obtain ⟨before, after, h⟩ := h
  obtain ⟨middle, between, hfirst, hrest⟩ := h.of_bind
  exact ⟨middle, hfirst.returns, hrest.returns⟩

/-- The action can fail with the error: it does so from some counters. -/
def Raises (action : Lower α) (error : LowerError) : Prop :=
  ∃ before after, action.run.run before = (.error error, after)

theorem Raises.of_bind {next : α → Lower β} (h : (action >>= next).Raises error) :
    action.Raises error ∨ ∃ middle, (next middle).Raises error := by
  obtain ⟨before, after, hrun⟩ := h
  change ExceptT.bindCont next (action.run.run before).1 (action.run.run before).2 = _ at hrun
  rcases hfirst : action.run.run before with ⟨first, between⟩
  rw [hfirst] at hrun
  cases first with
  | error raised =>
    obtain rfl : raised = error := Except.error.inj (Prod.mk.inj hrun).1
    exact .inl ⟨before, between, hfirst⟩
  | ok middle => exact .inr ⟨middle, between, after, hrun⟩

/-- However it ends, the action allocates no names. -/
def Silent (action : Lower α) : Prop := ∀ counters, (action.run.run counters).2 = counters

theorem Ends.eq_of_silent (h : action.Ends before result after) (hsilent : action.Silent) :
    before = after := by
  have hcounters := hsilent before
  rw [Ends] at h
  rw [h] at hcounters
  exact hcounters.symm

theorem silent_pure (value : α) : (pure value : Lower α).Silent := fun _ ↦ rfl

private theorem silent_throw (error : LowerError) : (throw error : Lower α).Silent := fun _ ↦ rfl

theorem silent_lift (given : Except LowerError α) : (liftM given : Lower α).Silent := fun _ ↦ rfl

theorem Silent.bind {next : α → Lower β} (h : action.Silent)
    (hnext : ∀ value, (next value).Silent) : (action >>= next).Silent := by
  intro counters
  change (ExceptT.bindCont next (action.run.run counters).1 (action.run.run counters).2).2 = _
  rw [h counters]
  cases (action.run.run counters).1 with
  | error error => rfl
  | ok value => exact hnext value counters

end Lower

open Lower in
-- Only calls allocate names, and no call is inline.
mutual
theorem silent_lowerInline (path : TreePath) (value : Value) : (lowerInline path value).Silent := by
  cases value with
  | element name props children =>
    rw [lowerInline]
    split
    · exact .bind (silent_lowerInlines path 0 children) fun _ ↦ silent_pure _
    · exact .bind (silent_lowerInlines path 0 children) fun _ ↦ silent_pure _
    · exact .bind (silent_lift _) fun _ ↦ silent_pure _
    · refine .bind (silent_lift _) fun _ ↦ ?_
      exact .bind (silent_lowerInlines path 0 children) fun _ ↦ silent_lift _
    · exact silent_pure _
    · exact silent_throw _
  | _ =>
    simp only [lowerInline]
    split
    · exact silent_pure _
    · exact silent_throw _

theorem silent_lowerInlines (parent : TreePath) (index : Nat) (children : List Value) :
    (lowerInlines parent index children).Silent := by
  match children with
  | [] =>
    rw [lowerInlines]
    exact silent_pure _
  | child :: rest =>
    rw [lowerInlines]
    split
    · exact silent_lowerInlines parent (index + 1) rest
    · refine .bind (silent_lowerInline _ child) fun _ ↦ ?_
      exact .bind (silent_lowerInlines parent (index + 1) rest) fun _ ↦ silent_pure _
end

/-! ## Items in props -/

/-- A value that is no element. -/
def Value.NoElement (value : Value) : Prop :=
  ∀ name props children, value ≠ .element name props children

/-- A value that lists other values of the tree. -/
def Value.holdsValues : Value → Bool
  | .list _ | .tuple _ | .mapping _ => true
  | _ => false

def itemsProp (props : List (String × Value)) : Except LowerError (List Value) :=
  match props.lookup "items" with
  | none => .ok []
  | some given => listed given

theorem itemsProp_cons_of_ne {name : String} (h : name ≠ "items") (value : Value)
    (rest : List (String × Value)) : itemsProp ((name, value) :: rest) = itemsProp rest := by
  rw [itemsProp, List.lookup_cons, beq_false_of_ne h.symm]
  rfl

theorem itemsProp_cons_self (value : Value) (rest : List (String × Value)) :
    itemsProp (("items", value) :: rest) = listed value := by
  rw [itemsProp, List.lookup_cons_self]

section

variable (registry : Registry)

private theorem lowerEach_nil (path : TreePath) (index : Nat) :
    lowerEach registry path index [] = pure [] := by
  rw [lowerEach]

private theorem lowerKeys_eq (path : TreePath) (index : Nat) (entries : List (Value × Value)) :
    lowerKeys registry path index entries =
      lowerEach registry path index (entries.map Prod.fst) := by
  induction entries generalizing index with
  | nil => rw [lowerKeys, List.map_nil, lowerEach_nil]
  | cons entry rest ih => rw [lowerKeys, List.map_cons, lowerEach, ih]

private theorem lowerEach_characters (path : TreePath) (index : Nat) (characters : List Char) :
    lowerEach registry path index (characters.map fun c ↦ .text (String.singleton c)) =
      pure (characters.map fun c ↦
        if Text.isBlank c then [] else [.leaf (.paragraph [.text (String.singleton c)])]) := by
  induction characters generalizing index with
  | nil => rw [List.map_nil, lowerEach_nil, List.map_nil]
  | cons c rest ih =>
    have hblank : Text.isBlankText (String.singleton c) = Text.isBlank c := by
      simp [Text.isBlankText]
    have hrole : Value.childRole (.text (String.singleton c)) =
        if Text.isBlank c then .blank else .inline := by
      simp [Value.childRole, Value.isBlank, Value.text?, hblank]
    rw [List.map_cons, lowerEach, ih, List.map_cons, aloneBlocks, hrole]
    by_cases hc : Text.isBlank c = true
    · rw [if_pos hc, if_pos hc, pure_bind, pure_bind]
    · have hgathered : gathered [.text (String.singleton c)] =
          [.leaf (.paragraph [.text (String.singleton c)])] := by
        simp [gathered, Inline.isBlank, hblank, hc]
      rw [if_neg hc, if_neg hc, ← hgathered]
      simp [lowerInline, inlineScalar?, Value.plainText?, Value.text?]

/-- A field of a record is a pair, and no pair can be an item. -/
theorem lowerEach_pair (path : TreePath) (index : Nat) (pair rest : List Value) :
    lowerEach registry path index (.tuple pair :: rest) =
      refuseAt (path ++ [index, 0]) none (.unsupportedChild (Value.tuple pair).typeName) := by
  have hrole : (Value.tuple pair).childRole = .inline := by
    simp [Value.childRole, Value.isBlank, Value.text?]
  rw [lowerEach, aloneBlocks, hrole]
  simp only [lowerInline, inlineScalar?, Value.plainText?, Value.text?, Option.map_none]
  rfl

theorem listed_of_elements? {value : Value} {items : List Value}
    (h : value.elements? = some items) (hfalse : value.truthy = false → items = []) :
    listed value = .ok items := by
  rw [listed, h]
  cases htruthy : value.truthy with
  | true => rfl
  | false => rw [hfalse htruthy]; rfl

theorem elements?_of_listed {value : Value} {items : List Value} (h : listed value = .ok items) :
    items = [] ∨ value.elements? = some items := by
  rw [listed] at h
  split at h
  · split at h
    · next found hfound =>
      rw [← Except.ok.inj h]
      exact .inr hfound
    · cases h
  · exact .inl (Except.ok.inj h).symm

/-- A value that is no text and holds no values lists pairs only. -/
theorem exists_pair_of_elements? {value : Value} {items : List Value}
    (h : value.elements? = value.recordFields?.map fun fields ↦
      fields.map fun field ↦ .tuple [.text field.1, field.2])
    (hitems : value.elements? = some items) : ∀ item ∈ items, ∃ pair, item = .tuple pair := by
  rw [h] at hitems
  obtain ⟨fields, -, rfl⟩ := Option.map_eq_some_iff.mp hitems
  exact List.forall_mem_map.mpr fun field _ ↦ ⟨_, rfl⟩

theorem noElement_of_listed {value : Value} {items : List Value}
    (hvalue : value.holdsValues = false) (h : listed value = .ok items) :
    ∀ item ∈ items, item.NoElement := by
  rcases elements?_of_listed h with rfl | helements
  · exact List.forall_mem_nil _
  · intro item hitem
    cases value with
    | list | tuple | mapping => cases hvalue
    | text | member =>
      rw [← Option.some.inj helements] at hitem
      obtain ⟨c, -, rfl⟩ := List.mem_map.mp hitem
      simp [Value.NoElement]
    | _ =>
      obtain ⟨pair, rfl⟩ := exists_pair_of_elements? rfl helements item hitem
      simp [Value.NoElement]

private theorem lowerItems_eq (path : TreePath) (value : Value) :
    lowerItems registry path value =
      (liftM (listed value) >>= fun values ↦ lowerEach registry path 0 values) := by
  cases value with
  | list items | tuple items =>
    rw [lowerItems, listed_of_elements? rfl (by simp [Value.truthy])]
    rfl
  | mapping entries =>
    rw [lowerItems, lowerKeys_eq, listed_of_elements? rfl (by simp [Value.truthy])]
    rfl
  | text s =>
    rw [lowerItems, characterItems, ← lowerEach_characters registry path 0,
      listed_of_elements? rfl (by simp +contextual [Value.truthy, Value.characters])]
    rfl
  | member m =>
    rw [lowerItems, characterItems, ← lowerEach_characters registry path 0,
      listed_of_elements? rfl (by simp +contextual [Value.truthy, Value.characters])]
    rfl
  | _ =>
    simp only [lowerItems]
    generalize hlisted : listed _ = result
    cases result with
    | error error => rfl
    | ok items =>
      cases items with
      | nil => exact (lowerEach_nil registry path 0).symm
      | cons field rest =>
        have hitems := (elements?_of_listed hlisted).resolve_left (List.cons_ne_nil _ _)
        obtain ⟨pair, rfl⟩ := exists_pair_of_elements? rfl hitems field List.mem_cons_self
        exact (lowerEach_pair registry path 0 pair rest).symm

/-- The items in the props of a list are the values that the items prop lists. -/
theorem lowerItemsProp_eq (path : TreePath) (props : List (String × Value)) :
    lowerItemsProp registry path props =
      (liftM (itemsProp props) >>= fun values ↦ lowerEach registry path 0 values) := by
  induction props with
  | nil =>
    rw [lowerItemsProp]
    exact (lowerEach_nil registry path 0).symm
  | cons entry rest ih =>
    obtain ⟨name, value⟩ := entry
    rw [lowerItemsProp]
    split
    · next hname =>
      subst hname
      rw [lowerItems_eq, itemsProp_cons_self]
    · next hname => rw [ih, itemsProp_cons_of_ne hname]

end

/-! ## Steps -/

namespace Site

/-- The element that is being lowered. -/
def element (site : Site) : Value := .element site.name site.props site.children

def level (site : Site) (given : Option Nat) : Value :=
  given.elim (site.propD ["level"] (.int 2)) fun n ↦ .int n

/-- The number at which a list is to start. -/
def start (site : Site) : Value := site.propD ["start"] (.int 1)

end Site

/-- Properties of the actions of lowering that hold of a step if they hold of the steps below it.
Those of lists of values are also about the place of the first value. -/
structure LoweringInvariant (registry : Registry) where
  /-- A value at a path becomes a block. -/
  block : TreePath → Value → Lower Block → Prop
  /-- Children become blocks; some inline nodes have been gathered before. -/
  blocks : TreePath → Nat → List Inline → List Value → Lower (List Block) → Prop
  /-- Values become items, each by itself. -/
  each : TreePath → Nat → List Value → Lower (List (List Block)) → Prop
  /-- The children of a list become its items. -/
  items : Site → Nat → List Value → Lower (List (List Block)) → Prop
  /-- A tree becomes a document. -/
  tree : Value → Lower Document → Prop
  noElement {path : TreePath} {value : Value} (h : value.NoElement) :
    block path value (refuseAt path none (.unsupportedChild value.typeName))
  unknown {site : Site} (htag : Tag.ofName? site.name = none) :
    block site.path site.element (refuseAt site.path (some site.name) .unknownElement)
  paragraph {site : Site} (htag : Tag.ofName? site.name = some .paragraph) :
    block site.path site.element do
      return .leaf (.paragraph (← lowerInlines site.path 0 site.children))
  heading {site : Site} {level : Option Nat}
    (htag : Tag.ofName? site.name = some (.heading level)) :
    block site.path site.element do
      let nodes ← lowerInlines site.path 0 site.children
      return .leaf (← site.made
        (Leaf.ofRecord .heading (.ofList [("level", site.level level)]) (.ok nodes)))
  list {site : Site} {tagged : Bool} {lowered : List Value → Lower (List (List Block))}
    {others : Lower (List (List Block))} (htag : Tag.ofName? site.name = some (.list tagged))
    (hlowered : ∀ values, itemsProp site.props = .ok values →
      each site.path 0 values (lowered values))
    (hothers : items site 0 site.children others) :
    block site.path site.element do
      let listedItems ← liftM (itemsProp site.props) >>= lowered
      let childItems ← others
      let isOrdered := tagged || (site.prop ["ordered"]).truthy
      let (_, start) ← site.made (Block.readListHead
        (.ofList [("ordered", .bool isOrdered), ("start", site.start)]))
      return .list isOrdered start (listedItems ++ childItems)
  item {site : Site} {children : Lower (List Block)} (htag : Tag.ofName? site.name = some .item)
    (hchildren : blocks site.path 0 [] site.children children) :
    block site.path site.element do return .item (← children)
  container {site : Site} {tag : ContainerTag} {children : Lower (List Block)}
    (htag : Tag.ofName? site.name = some (.container tag))
    (hchildren : blocks site.path 0 [] site.children children) :
    block site.path site.element do
      let draft ← draftContainer tag site
      let blocks ← children
      return .container (← checkDraft site draft) blocks
  leaf {site : Site} {tag : LeafTag} (htag : Tag.ofName? site.name = some (.leaf tag)) :
    block site.path site.element do return .leaf (← lowerLeaf registry tag site)
  blocksNil (path : TreePath) (index : Nat) (run : List Inline) :
    blocks path index run [] (pure (gathered run))
  blocksPass {path : TreePath} {index : Nat} {run : List Inline} {child : Value}
    {rest : List Value} {others : Lower (List Block)} (hrole : child.childRole ≠ .block)
    (hothers : blocks path (index + 1) run rest others) :
    blocks path index run (child :: rest) others
  blocksInline {path : TreePath} {index : Nat} {run : List Inline} {child : Value}
    {rest : List Value} {others : Inline → Lower (List Block)} (hrole : child.childRole ≠ .block)
    (hothers : ∀ node, blocks path (index + 1) (run ++ [node]) rest (others node)) :
    blocks path index run (child :: rest) (lowerInline (path ++ [index]) child >>= others)
  blocksCons {path : TreePath} {index : Nat} {run : List Inline} {child : Value}
    {rest : List Value} {first : Lower Block} {others : Lower (List Block)}
    (hfirst : block (path ++ [index]) child first)
    (hothers : blocks path (index + 1) [] rest others) :
    blocks path index run (child :: rest) do
      let block ← first
      let blocks ← others
      return gathered run ++ block :: blocks
  eachNil (path : TreePath) (index : Nat) : each path index [] (pure [])
  eachCons {path : TreePath} {index : Nat} {value : Value} {rest : List Value}
    {first : Lower Block} {others : Lower (List (List Block))}
    (hfirst : block (path ++ [index, 0]) value first)
    (hothers : each path (index + 1) rest others) :
    each path index (value :: rest) do
      let item ← aloneBlocks value first (lowerInline (path ++ [index, 0]) value)
      let items ← others
      return item :: items
  itemsNil (site : Site) (index : Nat) : items site index [] (pure [])
  itemsPass {site : Site} {index : Nat} {child : Value} {rest : List Value}
    {others : Lower (List (List Block))} (hchild : child.NoElement)
    (hothers : items site (index + 1) rest others) : items site index (child :: rest) others
  itemsCons {site : Site} {index : Nat} {props : List (String × Value)} {inner rest : List Value}
    {first : Lower (List Block)} {others : Lower (List (List Block))}
    (hfirst : blocks (site.path ++ [index]) 0 [] inner first)
    (hothers : items site (index + 1) rest others) :
    items site index (.element "li" props inner :: rest) do
      let item ← first
      let items ← others
      return item :: items
  itemsRefused {site : Site} {index : Nat} {child : Value} (rest : List Value)
    (hblank : child.isBlank = false) :
    items site index (child :: rest)
      (throw (.located (site.path ++ [index]) (some site.name) .notListItem))
  document {site : Site} {children : Lower (List Block)} (hpath : site.path = [])
    (hname : documentNames.contains site.name = true)
    (hchildren : blocks site.path 0 [] site.children children) :
    tree site.element do
      let frontmatter ← frontmatterValue site.props
      let blocks ← children
      site.made (Document.ofRecord (.ofList [(frontmatterField, frontmatter)]) (.ok blocks))
  alone {site : Site} {made : Lower Block} (hpath : site.path = [0])
    (hname : documentNames.contains site.name = false)
    (hmade : block site.path site.element made) :
    tree site.element do
      let blocks ← aloneBlocks site.element made (lowerInline site.path site.element)
      return { children := blocks }
  noTree {root : Value} {error : LowerError} (hroot : root.NoElement)
    (herror : error = .notElement ∨
      ∃ typeName, error = .located [0] none (.unsupportedChild typeName)) :
    tree root (throw error)

namespace LoweringInvariant

variable {registry : Registry} (p : LoweringInvariant registry)

private theorem each_of_noElement (path : TreePath) (index : Nat) {values : List Value}
    (h : ∀ value ∈ values, value.NoElement) :
    p.each path index values (lowerEach registry path index values) := by
  induction values generalizing index with
  | nil =>
    rw [lowerEach_nil]
    exact p.eachNil path index
  | cons value rest ih =>
    obtain ⟨hvalue, hrest⟩ := List.forall_mem_cons.mp h
    rw [lowerEach]
    refine p.eachCons ?_ (ih (index + 1) hrest)
    cases value with
    | element name props children => exact absurd rfl (hvalue name props children)
    | _ =>
      unfold lowerBlock
      exact p.noElement hvalue

-- The induction follows the recursion of lowering. It is the only one: what holds of the steps is
-- put together here, and the properties differ in the steps alone.
mutual
theorem block_lowerBlock (path : TreePath) (value : Value) :
    p.block path value (lowerBlock registry path value) := by
  cases value with
  | element name props children =>
    let site : Site := ⟨path, name, props, children⟩
    have hblocks := blocks_lowerBlocks path 0 [] children
    rw [lowerBlock, lowerItemsProp_eq]
    cases htag : Tag.ofName? name with
    | none => exact @p.unknown site htag
    | some tag =>
      cases tag with
      | paragraph => exact @p.paragraph site htag
      | heading level => exact @p.heading site level htag
      | list tagged =>
        exact @p.list site tagged _ _ htag (each_itemsProp path props)
          (items_lowerListChildren site 0 children)
      | item => exact @p.item site _ htag hblocks
      | container tag => exact @p.container site tag _ htag hblocks
      | leaf tag => exact @p.leaf site tag htag
  | _ =>
    unfold lowerBlock
    exact p.noElement (by simp [Value.NoElement])

theorem blocks_lowerBlocks (path : TreePath) (index : Nat) (run : List Inline)
    (children : List Value) :
    p.blocks path index run children (lowerBlocks registry path index run children) := by
  cases children with
  | nil =>
    rw [lowerBlocks]
    exact p.blocksNil path index run
  | cons child rest =>
    have hothers := fun run ↦ blocks_lowerBlocks path (index + 1) run rest
    have hchild := block_lowerBlock (path ++ [index]) child
    rw [lowerBlocks]
    cases hrole : child.childRole with
    | skipped => exact p.blocksPass (by rw [hrole]; decide) (hothers run)
    | block => exact p.blocksCons hchild (hothers [])
    | blank | inline =>
      dsimp only
      split
      · exact p.blocksPass (by rw [hrole]; decide) (hothers run)
      · exact p.blocksInline (by rw [hrole]; decide) fun node ↦ hothers _

theorem each_itemsProp (path : TreePath) (props : List (String × Value)) (values : List Value)
    (h : itemsProp props = .ok values) :
    p.each path 0 values (lowerEach registry path 0 values) := by
  cases props with
  | nil =>
    rw [← Except.ok.inj h, lowerEach_nil]
    exact p.eachNil path 0
  | cons entry rest =>
    obtain ⟨name, value⟩ := entry
    by_cases hname : name = "items"
    · rw [hname, itemsProp_cons_self] at h
      exact each_listed path value values h
    · rw [itemsProp_cons_of_ne hname] at h
      exact each_itemsProp path rest values h

theorem each_listed (path : TreePath) (value : Value) (values : List Value)
    (h : listed value = .ok values) :
    p.each path 0 values (lowerEach registry path 0 values) := by
  cases value with
  | list items | tuple items =>
    rw [listed_of_elements? rfl (by simp [Value.truthy])] at h
    rw [← Except.ok.inj h]
    exact each_lowerEach path 0 items
  | mapping entries =>
    rw [listed_of_elements? rfl (by simp [Value.truthy])] at h
    rw [← Except.ok.inj h]
    exact each_keys path 0 entries
  | _ => exact p.each_of_noElement path 0 (noElement_of_listed rfl h)

theorem each_lowerEach (path : TreePath) (index : Nat) (values : List Value) :
    p.each path index values (lowerEach registry path index values) := by
  cases values with
  | nil =>
    rw [lowerEach_nil]
    exact p.eachNil path index
  | cons value rest =>
    rw [lowerEach]
    exact p.eachCons (block_lowerBlock _ value) (each_lowerEach path (index + 1) rest)

theorem each_keys (path : TreePath) (index : Nat) (entries : List (Value × Value)) :
    p.each path index (entries.map Prod.fst)
      (lowerEach registry path index (entries.map Prod.fst)) := by
  cases entries with
  | nil =>
    rw [List.map_nil, lowerEach_nil]
    exact p.eachNil path index
  | cons entry rest =>
    obtain ⟨key, value⟩ := entry
    rw [List.map_cons, lowerEach]
    exact p.eachCons (block_lowerBlock _ key) (each_keys path (index + 1) rest)

theorem items_lowerListChildren (site : Site) (index : Nat) (children : List Value) :
    p.items site index children (lowerListChildren registry site index children) := by
  cases children with
  | nil =>
    rw [lowerListChildren]
    exact p.itemsNil site index
  | cons child rest =>
    have hothers := items_lowerListChildren site (index + 1) rest
    cases child with
    | element name props inner =>
      rw [lowerListChildren]
      split
      · next hname =>
        subst hname
        exact p.itemsCons (blocks_lowerBlocks _ 0 [] inner) hothers
      · exact p.itemsRefused rest rfl
    | _ =>
      unfold lowerListChildren
      split
      · exact p.itemsPass (by simp [Value.NoElement]) hothers
      · next hkept =>
        refine p.itemsRefused rest (Bool.eq_false_iff.mpr fun hblank ↦ hkept ?_)
        rw [hblank, Bool.or_true]
end

theorem tree_lowerTree (root : Value) : p.tree root (lowerTree registry root) := by
  have hnamed : root.NoElement → ∀ name typeName,
      p.tree root (lowerTree.namedRoot name typeName) := by
    intro hroot name typeName
    rw [lowerTree.namedRoot]
    split
    · exact p.noTree hroot (.inl rfl)
    · exact p.noTree hroot (.inr ⟨typeName, rfl⟩)
  cases root with
  | element name props children =>
    rw [lowerTree]
    split
    · next hname =>
      exact @p.document ⟨[], name, props, children⟩ _ rfl hname (p.blocks_lowerBlocks ..)
    · next hname =>
      rw [Bool.not_eq_true] at hname
      exact @p.alone ⟨[0], name, props, children⟩ _ rfl hname (p.block_lowerBlock ..)
  | route route => exact hnamed (by simp [Value.NoElement]) _ _
  | handle callee => exact hnamed (by simp [Value.NoElement]) _ _
  | _ => exact p.noTree (by simp [Value.NoElement]) (.inl rfl)

end LoweringInvariant

end Runbook
