import Runbook.Proofs.LoweredSlots
import Runbook.Proofs.NodeData
import Runbook.Proofs.Stages

/-!
# Lowered documents are well-formed

Lowering makes some nodes from fields that the schema has read and others on its own. Either way it
makes none that the schema would refuse. Every block of a document that a build lowers from a tree
is well-formed on its own (`Origin.isWellFormed`), so the whole document can be read from its data.

Where the type of a document says all there is to say, the statement is about the tree: numbers that
cannot be negative in a document are the very integers that were given (`Block.IsGiven`), and
frontmatter, whose type is plain data, was given as plain data (`Value.GivesFrontmatter`).
-/

namespace Runbook

/-! ## What is given -/

/-- The condition that an element poses: its own, or its test. A test that is a text is one of the
shell and not empty. -/
inductive Site.Poses (site : Site) : Value → Prop where
  | condition {value : Value} (h : prop? site.props ["condition"] = some value) : Poses site value
  | test {value : Value} (hcondition : prop? site.props ["condition"] = none)
    (h : prop? site.props ["test"] = some value) (hvalue : value.text? = none) :
    Poses site value
  | shellTest {value : Value} {text : String} (hcondition : prop? site.props ["condition"] = none)
    (h : prop? site.props ["test"] = some value) (hvalue : value.text? = some text)
    (htext : text ≠ "") : Poses site (.condition (.shellTest text))

/-- The numbers and the condition of a block are those that an element of the tree gives. -/
def Block.IsGiven (root : Value) : Block → Prop
  | .leaf (.heading level _) =>
    ∃ site given, Site.In site root (.heading given) ∧
      Read.integer (site.level given) = .ok (level : Int)
  | .list _ start _ =>
    ∃ site tagged, Site.In site root (.list tagged) ∧ Read.integer site.start = .ok (start : Int)
  | .container (.indent spaces) _ =>
    ∃ site, Site.In site root (.container .indent) ∧
      Read.integer (site.propD ["spaces"] (.int 2)) = .ok (spaces : Int)
  | .container (.conditional condition) _ =>
    ∃ site, Site.In site root (.container .ifTrue) ∧ site.Poses condition
  | _ => True

/-- Data that frontmatter may be made of: scalars and staged values, sequences, and mappings whose
keys are texts. A member of an enumeration is a text. -/
inductive Value.IsPlain : Value → Prop where
  | null : IsPlain .null
  | bool (b : Bool) : IsPlain (.bool b)
  | int (n : Int) : IsPlain (.int n)
  | float (x : Binary64) : IsPlain (.float x)
  | text (s : String) : IsPlain (.text s)
  | member (m : Member) : IsPlain (.member m)
  | staged (v : Staged) : IsPlain (.staged v)
  | list {items : List Value} (h : ∀ item ∈ items, IsPlain item) : IsPlain (.list items)
  | tuple {items : List Value} (h : ∀ item ∈ items, IsPlain item) : IsPlain (.tuple items)
  | mapping {entries : List (Value × Value)}
    (hkeys : ∀ entry ∈ entries, ∃ s, entry.1.text? = some s)
    (hvalues : ∀ entry ∈ entries, IsPlain entry.2) : IsPlain (.mapping entries)

/-- The frontmatter is what the props of the root give: plain data, each by the same name. -/
def Value.GivesFrontmatter (root : Value) (data : Frontmatter) : Prop :=
  ∃ name props children entries, root = .element name props children ∧
    frontmatterValue props = .ok (.mapping entries) ∧ (∀ entry ∈ entries, entry.2.IsPlain) ∧
    List.Forall₂ (fun entry item ↦ Read.text entry.1 = .ok item.1 ∧ entry.2 = item.2.toValue)
      entries data

/-! ## Leaves -/

private theorem Leaf.isWellFormed_of_kind {content : Leaf}
    (h : content.kind ∉ [Kind.heading, .assign, .assignGroup]) : content.isWellFormed = true := by
  cases content with
  | heading | assign | assignGroup => exact absurd (by simp [Leaf.kind]) h
  | _ => rfl

private theorem isWellFormed_of_assignmentOf {site : Site} {assignment : Assignment}
    (h : assignmentOf site = .ok assignment) : assignment.isWellFormed = true := by
  rw [assignmentOf] at h
  split at h
  · obtain ⟨name, -, h⟩ := bind_eq_ok_iff.mp h
    obtain ⟨variableName, -, h⟩ := bind_eq_ok_iff.mp (Site.eq_ok_of_made h)
    obtain ⟨source, -, h⟩ := bind_eq_ok_iff.mp h
    obtain ⟨content, -, h⟩ := bind_eq_ok_iff.mp h
    obtain ⟨comment, -, h⟩ := bind_eq_ok_iff.mp h
    obtain ⟨hchecked, rfl⟩ := Assignment.check_eq_ok_iff.mp h
    exact hchecked
  · cases h

private theorem isWellFormed_of_assignmentsOf {site : Site} {index : Nat} {children : List Value}
    {assignments : List Assignment} (h : assignmentsOf site index children = .ok assignments) :
    ∀ assignment ∈ assignments, assignment.isWellFormed = true := by
  induction children generalizing index assignments with
  | nil =>
    rw [← Except.ok.inj h]
    exact List.forall_mem_nil _
  | cons child rest ih =>
    unfold assignmentsOf at h
    split at h
    · exact ih h
    · split at h
      · obtain ⟨first, hfirst, h⟩ := bind_eq_ok_iff.mp h
        obtain ⟨others, hothers, h⟩ := bind_eq_ok_iff.mp h
        rw [← Except.ok.inj h]
        exact List.forall_mem_cons.mpr ⟨isWellFormed_of_assignmentOf hfirst, ih hothers⟩
      · cases h

private theorem isWellFormed_of_lowerLeaf {registry : Registry} {tag : LeafTag} {site : Site}
    {content : Leaf} (h : (lowerLeaf registry tag site).Returns content) :
    content.isWellFormed = true := by
  have hkind := kind_of_lowerLeaf h
  cases tag with
  | assign =>
    obtain ⟨assignment, hassignment, h⟩ := h.of_bind
    rw [← h.eq_of_pure]
    exact isWellFormed_of_assignmentOf hassignment.eq_ok_of_lift
  | assignGroup =>
    obtain ⟨assignments, hassignments, h⟩ := bind_eq_ok_iff.mp h.eq_ok_of_lift
    split at h
    · cases h
    · next hne =>
      rw [← Except.ok.inj h]
      have hall := isWellFormed_of_assignmentsOf hassignments
      simp only [Leaf.isWellFormed, Bool.and_eq_true, List.all_eq_true, Bool.not_eq_true']
      exact ⟨by simpa using hne, hall⟩
  | _ => exact Leaf.isWellFormed_of_kind (by rw [hkind]; decide)

/-! ## Containers -/

private theorem isTagName_of_readTagName {value : Value} {name : String}
    (h : readTagName value = .ok name) : isTagName name = true := by
  obtain ⟨text, -, h⟩ := bind_eq_ok_iff.mp h
  split at h
  · next hname =>
    rw [← Except.ok.inj h]
    exact hname
  · cases h

/-- What is read as a container is of the kind that was read, and its name, if it has one, is that
of a tag. -/
theorem Container.of_ofRecord {kind : Kind} {record : Record} {head : Container}
    (h : ofRecord kind record = .ok head) : head.kind = kind ∧ head.isWellFormed = true := by
  cases kind with
  | xmlBlock =>
    obtain ⟨name, hname, h⟩ := bind_eq_ok_iff.mp h
    obtain ⟨attributes, -, h⟩ := bind_eq_ok_iff.mp h
    rw [← Except.ok.inj h]
    rw [Record.required] at hname
    split at hname
    · exact ⟨rfl, isTagName_of_readTagName (Read.eq_ok_of_below hname)⟩
    · cases hname
  | executionReference | statusBranch =>
    obtain ⟨first, -, h⟩ := bind_eq_ok_iff.mp h
    obtain ⟨second, -, h⟩ := bind_eq_ok_iff.mp h
    rw [← Except.ok.inj h]
    exact ⟨rfl, rfl⟩
  | blockquote | group | elseBranch =>
    rw [← Except.ok.inj h]
    exact ⟨rfl, rfl⟩
  | indent | conditional | loop =>
    obtain ⟨read, -, h⟩ := bind_eq_ok_iff.mp h
    rw [← Except.ok.inj h]
    exact ⟨rfl, rfl⟩
  | step =>
    obtain ⟨number, -, h⟩ := bind_eq_ok_iff.mp h
    obtain ⟨name, -, h⟩ := bind_eq_ok_iff.mp h
    obtain ⟨layout, -, h⟩ := bind_eq_ok_iff.mp h
    rw [← Except.ok.inj h]
    exact ⟨rfl, rfl⟩
  | agentSpawn =>
    obtain ⟨agent, -, h⟩ := bind_eq_ok_iff.mp h
    obtain ⟨model, -, h⟩ := bind_eq_ok_iff.mp h
    obtain ⟨description, -, h⟩ := bind_eq_ok_iff.mp h
    obtain ⟨prompt, -, h⟩ := bind_eq_ok_iff.mp h
    obtain ⟨file, -, h⟩ := bind_eq_ok_iff.mp h
    rw [← Except.ok.inj h]
    exact ⟨rfl, rfl⟩
  | _ => cases h

private theorem poses_of_conditionOf {site : Site} {condition : Value}
    (h : conditionOf site = .ok condition) : site.Poses condition := by
  rw [conditionOf] at h
  split at h
  · next hcondition =>
    rw [← Except.ok.inj h]
    exact .condition hcondition
  · next hcondition =>
    obtain ⟨value, hvalue, h⟩ := bind_eq_ok_iff.mp h
    have htest := Site.prop?_of_require hvalue
    split at h
    · next text htext =>
      obtain ⟨made, hmade, h⟩ := bind_eq_ok_iff.mp h
      obtain ⟨read, hread, hmade⟩ := bind_eq_ok_iff.mp (Site.eq_ok_of_made hmade)
      obtain ⟨given, hgiven, hread⟩ := bind_eq_ok_iff.mp (Record.eq_of_required hread rfl)
      obtain rfl : text = given := Except.ok.inj hgiven
      split at hread
      · cases hread
      · next hempty =>
        rw [← Except.ok.inj h, ← Except.ok.inj hmade, ← Except.ok.inj hread]
        exact .shellTest hcondition htest htext (by simpa using hempty)
    · next hvalue =>
      rw [← Except.ok.inj h]
      exact .test hcondition htest hvalue

private theorem isGiven_of_kind {head : Container} (hindent : head.kind ≠ .indent)
    (hcondition : head.kind ≠ .conditional) (root : Value) (children : List Block) :
    (Block.container head children).IsGiven root := by
  cases head with
  | indent => exact absurd rfl hindent
  | conditional => exact absurd rfl hcondition
  | _ => trivial

private theorem kind_of_draftContainer {tag : ContainerTag} {site : Site} {draft : Draft}
    (hindent : tag ≠ .indent) (hcondition : tag ≠ .ifTrue)
    (h : draftContainer tag site = .ok draft) :
    draft.kind ≠ .indent ∧ draft.kind ≠ .conditional := by
  cases tag with
  | indent => exact absurd rfl hindent
  | ifTrue => exact absurd rfl hcondition
  | blockquote | executionContext | otherwise =>
    rw [← Except.ok.inj h]
    simp
  | xmlBlock | loop =>
    obtain ⟨first, -, h⟩ := bind_eq_ok_iff.mp h
    rw [← Except.ok.inj h]
    simp
  | division =>
    rw [draftContainer] at h
    split at h
    · obtain ⟨name, -, h⟩ := bind_eq_ok_iff.mp h
      rw [← Except.ok.inj h]
      simp
    · rw [← Except.ok.inj h]
      simp
  | step | onStatus =>
    obtain ⟨first, -, h⟩ := bind_eq_ok_iff.mp h
    obtain ⟨second, -, h⟩ := bind_eq_ok_iff.mp h
    rw [← Except.ok.inj h]
    simp
  | spawnAgent =>
    obtain ⟨agent, -, h⟩ := bind_eq_ok_iff.mp h
    obtain ⟨model, -, h⟩ := bind_eq_ok_iff.mp h
    obtain ⟨description, -, h⟩ := bind_eq_ok_iff.mp h
    rw [← Except.ok.inj h]
    simp

/-- The width of an indent and the condition of a conditional are read from the element, and all
other containers have neither. -/
theorem isGiven_of_checkDraft {root : Value} {site : Site} {tag : ContainerTag} {draft : Draft}
    {head : Container} (hsite : site.In root (.container tag))
    (hdraft : draftContainer tag site = .ok draft) (hhead : checkDraft site draft = .ok head)
    (children : List Block) : (Block.container head children).IsGiven root := by
  have hread := Site.eq_ok_of_made hhead
  by_cases hindent : tag = .indent
  · subst hindent
    obtain rfl := Except.ok.inj hdraft
    obtain ⟨spaces, hspaces, hread⟩ := bind_eq_ok_iff.mp hread
    rw [← Except.ok.inj hread]
    exact ⟨site, hsite, (Read.natural_eq_ok_iff.mp (Record.eq_of_field hspaces rfl)).1⟩
  · by_cases hcondition : tag = .ifTrue
    · subst hcondition
      obtain ⟨condition, hposed, hdraft⟩ := bind_eq_ok_iff.mp hdraft
      obtain rfl := Except.ok.inj hdraft
      obtain ⟨given, hgiven, hread⟩ := bind_eq_ok_iff.mp hread
      obtain rfl : condition = given := Except.ok.inj (Record.eq_of_required hgiven rfl)
      rw [← Except.ok.inj hread]
      exact ⟨site, hsite, poses_of_conditionOf hposed⟩
    · have hkind := kind_of_draftContainer hindent hcondition hdraft
      rw [← (Container.of_ofRecord hread).1] at hkind
      exact isGiven_of_kind hkind.1 hkind.2 root children

/-! ## Blocks -/

namespace Origin

variable {registry : Registry} {root : Value} {block : Block}

theorem isWellFormed (h : Origin registry root block) : block.isWellFormed = true := by
  cases h with
  | paragraph | item | list => rfl
  | heading nodes hsite hlevel =>
    obtain ⟨-, hleast, hmost⟩ := Read.natural_eq_ok_iff.mp hlevel
    exact decide_eq_true ⟨hleast, hmost 6 rfl⟩
  | leaf hsite hcontent => exact isWellFormed_of_lowerLeaf hcontent
  | container children hsite hdraft hhead =>
    exact (Container.of_ofRecord (Site.eq_ok_of_made hhead)).2

private theorem isGiven (h : Origin registry root block) : block.IsGiven root := by
  cases h with
  | paragraph | item => trivial
  | heading nodes hsite hlevel => exact ⟨_, _, hsite, (Read.natural_eq_ok_iff.mp hlevel).1⟩
  | list items hsite hstart => exact ⟨_, _, hsite, (Read.natural_eq_ok_iff.mp hstart).1⟩
  | @leaf site tag content hsite hcontent =>
    cases content with
    | heading =>
      -- Headings are no leaves of their own.
      have hkind := kind_of_lowerLeaf hcontent
      cases tag <;> cases hkind
    | _ => trivial
  | container children hsite hdraft hhead =>
    exact isGiven_of_checkDraft hsite hdraft hhead children

end Origin

/-! ## Frontmatter -/

private theorem map_eq_ok_iff {ε α β : Type} {given : Except ε α} {f : α → β} {result : β} :
    given.map f = .ok result ↔ ∃ value, given = .ok value ∧ f value = result := by
  cases given with
  | error error => simp [Except.map]
  | ok value => simp [Except.map]

private theorem eq_of_optional {α : Type} {read : Value → Read α} {value : Value} {result : α}
    (h : Read.optional read value = .ok (some result)) : read value = .ok result := by
  unfold Read.optional at h
  split at h
  · cases h
  · obtain ⟨item, hitem, heq⟩ := map_eq_ok_iff.mp h
    rw [hitem, Option.some.inj heq]

private theorem DatumKey.toValue_of_ofValue? {value : Value} {key : DatumKey}
    (h : ofValue? value = some key) : key.toValue = value := by
  cases value with
  | text | member =>
    cases h
    rfl
  | _ => cases h

namespace Datum

-- Only sequences and mappings hold other data, so the induction follows these.
mutual
theorem toValue_of_ofValue {place : String} (value : Value) {datum : Datum}
    (h : ofValue place value = .ok datum) : datum.toValue = value := by
  cases value with
  | list items | tuple items =>
    rw [ofValue] at h
    obtain ⟨data, hdata, rfl⟩ := map_eq_ok_iff.mp h
    rw [toValue, toValues_of_ofItems items hdata]
  | mapping entries =>
    rw [ofValue] at h
    obtain ⟨data, hdata, rfl⟩ := map_eq_ok_iff.mp h
    rw [toValue, toEntries_of_ofEntries entries hdata]
  | null | bool | int | float | text | staged | member =>
    rw [ofValue] at h
    rw [← Except.ok.inj h, toValue]
  | _ =>
    simp only [ofValue] at h
    cases h

theorem toValues_of_ofItems {place : String} {index : Nat} (items : List Value)
    {data : List Datum} (h : ofItems place index items = .ok data) : toValues data = items := by
  match items with
  | [] =>
    rw [ofItems] at h
    rw [← Except.ok.inj h, toValues]
  | item :: rest =>
    rw [ofItems] at h
    obtain ⟨first, hfirst, h⟩ := bind_eq_ok_iff.mp h
    obtain ⟨others, hothers, h⟩ := bind_eq_ok_iff.mp h
    rw [← Except.ok.inj h, toValues, toValue_of_ofValue item hfirst,
      toValues_of_ofItems rest hothers]

theorem toEntries_of_ofEntries {place : String} (entries : List (Value × Value))
    {data : List (DatumKey × Datum)} (h : ofEntries place entries = .ok data) :
    toEntries data = entries := by
  match entries with
  | [] =>
    rw [ofEntries] at h
    rw [← Except.ok.inj h, toEntries]
  | (key, value) :: rest =>
    rw [ofEntries] at h
    split at h
    · next name hname =>
      obtain ⟨first, hfirst, h⟩ := bind_eq_ok_iff.mp h
      obtain ⟨others, hothers, h⟩ := bind_eq_ok_iff.mp h
      rw [← Except.ok.inj h, toEntries, toValue_of_ofValue value hfirst,
        toEntries_of_ofEntries rest hothers, DatumKey.toValue_of_ofValue? hname]
    · cases h
end

private theorem eq_of_ofFields {place : String} {fields : List (String × Value)}
    {data : Frontmatter} (h : ofFields place fields = .ok data) :
    fields = data.map fun item ↦ (item.1, item.2.toValue) := by
  induction fields generalizing data with
  | nil =>
    rw [← Except.ok.inj h]
    rfl
  | cons field rest ih =>
    obtain ⟨first, hfirst, h⟩ := bind_eq_ok_iff.mp h
    obtain ⟨others, hothers, h⟩ := bind_eq_ok_iff.mp h
    rw [← Except.ok.inj h, List.map_cons, ← ih hothers, toValue_of_ofValue field.2 hfirst]

mutual
theorem isPlain_toValue (datum : Datum) : datum.toValue.IsPlain := by
  match datum with
  | .null => rw [toValue]; exact .null
  | .bool b => rw [toValue]; exact .bool b
  | .int n => rw [toValue]; exact .int n
  | .float x => rw [toValue]; exact .float x
  | .text s => rw [toValue]; exact .text s
  | .staged v => rw [toValue]; exact .staged v
  | .member m => rw [toValue]; exact .member m
  | .list items => rw [toValue]; exact .list (isPlain_toValues items)
  | .tuple items => rw [toValue]; exact .tuple (isPlain_toValues items)
  | .map entries =>
    have hentries := isPlain_toEntries entries
    rw [toValue]
    exact .mapping (fun entry hentry ↦ (hentries entry hentry).1)
      fun entry hentry ↦ (hentries entry hentry).2

theorem isPlain_toValues (items : List Datum) : ∀ value ∈ toValues items, value.IsPlain := by
  match items with
  | [] =>
    rw [toValues]
    exact List.forall_mem_nil _
  | item :: rest =>
    rw [toValues]
    exact List.forall_mem_cons.mpr ⟨isPlain_toValue item, isPlain_toValues rest⟩

theorem isPlain_toEntries (entries : List (DatumKey × Datum)) :
    ∀ entry ∈ toEntries entries, (∃ s, entry.1.text? = some s) ∧ entry.2.IsPlain := by
  match entries with
  | [] =>
    rw [toEntries]
    exact List.forall_mem_nil _
  | (key, item) :: rest =>
    have hkey : ∃ s, key.toValue.text? = some s := by cases key <;> exact ⟨_, rfl⟩
    rw [toEntries]
    exact List.forall_mem_cons.mpr ⟨⟨hkey, isPlain_toValue item⟩, isPlain_toEntries rest⟩
end

private theorem forall₂_of_entries {entries : List (Value × Value)} {pairs : List (String × Value)}
    (h : Read.entries (.ok ·) entries = .ok pairs) :
    List.Forall₂ (fun entry pair ↦ Read.text entry.1 = .ok pair.1 ∧ entry.2 = pair.2)
      entries pairs := by
  induction entries generalizing pairs with
  | nil =>
    rw [← Except.ok.inj h]
    exact .nil
  | cons entry rest ih =>
    obtain ⟨name, hname, h⟩ := bind_eq_ok_iff.mp h
    obtain ⟨first, hfirst, h⟩ := bind_eq_ok_iff.mp h
    obtain ⟨others, hothers, h⟩ := bind_eq_ok_iff.mp h
    rw [← Except.ok.inj h]
    exact .cons ⟨Read.eq_ok_of_below (Read.eq_ok_of_below hname), Except.ok.inj hfirst⟩ (ih hothers)

/-- Frontmatter is read from a mapping whose keys are texts, and what stands under each name is
kept. -/
theorem forall₂_of_readFrontmatter {value : Value} {data : Frontmatter}
    (h : readFrontmatter value = .ok data) :
    ∃ entries, value = .mapping entries ∧
      List.Forall₂ (fun entry item ↦ Read.text entry.1 = .ok item.1 ∧ entry.2 = item.2.toValue)
        entries data := by
  obtain ⟨pairs, hpairs, hplain⟩ := bind_eq_ok_iff.mp h
  cases value with
  | mapping entries =>
    refine ⟨entries, rfl, ?_⟩
    split at hplain
    · next read hread =>
      obtain rfl : read = data := Except.ok.inj hplain
      have hentries := forall₂_of_entries hpairs
      rwa [eq_of_ofFields hread, List.forall₂_map_right_iff] at hentries
    · cases hplain
  | _ => cases hpairs

end Datum

private theorem givesFrontmatter_of_lowerTree {registry : Registry} {root : Value}
    {document : Document} (h : (lowerTree registry root).Returns document) :
    ∀ data ∈ document.frontmatter, root.GivesFrontmatter data := by
  intro data hdata
  cases root with
  | element name props children =>
    rw [lowerTree] at h
    split at h
    · obtain ⟨frontmatter, hfrontmatter, h⟩ := h.of_bind
      obtain ⟨blocks, -, h⟩ := h.of_bind
      obtain ⟨read, hread, h⟩ := bind_eq_ok_iff.mp (Site.eq_ok_of_made h.eq_ok_of_lift)
      obtain rfl : some data = read := by rw [← hdata, ← Except.ok.inj h]
      obtain ⟨entries, rfl, hentries⟩ :=
        Datum.forall₂_of_readFrontmatter (eq_of_optional (Record.eq_of_field hread rfl))
      refine ⟨name, props, children, entries, rfl, hfrontmatter.eq_ok_of_lift, ?_, hentries⟩
      intro entry hentry
      obtain ⟨item, -, -, hvalue⟩ := exists_mem_of_forall₂ hentries hentry
      rw [hvalue]
      exact Datum.isPlain_toValue item.2
    · obtain ⟨blocks, -, h⟩ := h.of_bind
      rw [← h.eq_of_pure] at hdata
      cases hdata
  | route route | handle handle =>
    rw [lowerTree, lowerTree.namedRoot] at h
    split at h
    · exact absurd h (Lower.not_returns_throw _)
    · exact absurd h (Lower.not_returns_throw _)
  | _ =>
    simp only [lowerTree] at h
    exact absurd h (Lower.not_returns_throw _)

/-- **Lowering makes only well-formed documents.** Whatever the tree and the state of the build are,
each block of a document that is lowered is well-formed, and its numbers and its condition are those
that an element of the tree gives. The frontmatter was given as plain data. So the document could
have been given as data itself: the schema reads it from its own data. -/
theorem Build.wellFormed_of_lowerElement {ε : Type} {root : Value} {document : Document}
    {state after : BuildState}
    (h : (lowerElement root : Build ε Document).outcome state = (.ok document, after)) :
    (∀ path block, (path, .inner block) ∈ document.walk →
      block.isWellFormed = true ∧ block.IsGiven root) ∧
    (∀ data ∈ document.frontmatter, root.GivesFrontmatter data) ∧
    Document.read document.data = .ok document := by
  obtain ⟨-, hreturns, -⟩ := outcome_lowerElement_eq_ok h
  have horigin := everywhere_origin_of_lowerTree hreturns
  refine ⟨fun path block hmem ↦ ?_, givesFrontmatter_of_lowerTree hreturns, ?_⟩
  · have hblock := Document.everywhere_iff.mp horigin path block hmem
    exact ⟨hblock.isWellFormed, hblock.isGiven⟩
  · exact Document.read_data fun block hblock ↦
      (horigin block hblock).imp fun _ ↦ Origin.isWellFormed

/-- Numbers that are given as a text and as a truth value, a shell test, a group of assignments and
an indent in the items of a list, below frontmatter. -/
theorem Build.wellFormed_of_lowerElement_mixed :
    let assign (source content : String) : Value :=
      .element "Assign" [("var", .text "V"), (source, .text content)] []
    let root : Value := .element "document" [("tags", .list [.text "a", .int 1])]
      [.element "Heading" [("level", .text "3")] [.text "Title"],
        .element "ol" [("start", .bool false),
          ("items", .tuple [.element "Indent" [("spaces", .int 4)]
            [.element "XmlBlock" [("name", .text "note")] []]])] [],
        .element "If" [("test", .text "-f x")]
          [.element "AssignGroup" [] [assign "env" "HOME", assign "bash" "date"]]]
    let state : BuildState := { context := .create "unit" {} "" }
    ∃ document after,
      (lowerElement root : Build Empty Document).outcome state = (.ok document, after) ∧
      document.walk.map (fun position ↦ position.2.kind) =
        [.document, .heading, .list, .listItem, .indent, .xmlBlock, .conditional, .assignGroup] ∧
      (∀ path block, (path, .inner block) ∈ document.walk →
        block.isWellFormed = true ∧ block.IsGiven root) ∧
      (∀ data ∈ document.frontmatter, root.GivesFrontmatter data) ∧
      Document.read document.data = .ok document := by
  intro assign root state
  refine ⟨_, _, rfl, by decide +kernel, ?_⟩
  exact wellFormed_of_lowerElement
    (show (lowerElement root : Build Empty Document).outcome state = _ from rfl)

end Runbook
