import Runbook.Proofs.Origins

/-!
# Documents as untyped data

A document can be written down as untyped data: each node is a mapping of its kind and its fields.
The schema reads documents from such data and checks what the types of documents leave open, such as
the level of a heading. A document whose blocks all pass these checks (`Block.isWellFormed`) is read
back from its data as it is (`Document.read_data`); so it could have been given as data in the first
place.
-/

namespace Runbook

/-! ## Data -/

namespace Value

/-- A mapping of named fields. -/
def record (fields : List (String × Value)) : Value :=
  .mapping (fields.map fun field ↦ (.text field.1, field.2))

def node (kind : Kind) (fields : List (String × Value)) : Value :=
  record (("kind", .text kind.name) :: fields)

/-- The value that a list of content slots holds. -/
def ofContents (contents : List Content) : Value := .list (contents.map ofContent)

end Value

def Choice.data (choice : Choice) : Value :=
  .record [("value", .text choice.value), ("label", .text choice.label),
    ("description", .ofText? choice.description)]

def Criterion.data (criterion : Criterion) : Value :=
  .record [("text", .ofContent criterion.text), ("checked", .bool criterion.checked)]

def Route.data (route : Route) : Value :=
  .record [("name", .text route.name), ("path", .text route.path),
    ("description", .ofText? route.description)]

namespace Inline

mutual
def data : Inline → Value
  | .text value => .node .text [("value", .text value)]
  | .staged value => .node .stagedText [("value", .staged value)]
  | .bold children => .node .bold [("children", .list (dataList children))]
  | .italic children => .node .italic [("children", .list (dataList children))]
  | .code content => .node .inlineCode [("content", .ofContent content)]
  | .link url children => .node .link [("url", .text url), ("children", .list (dataList children))]
  | .lineBreak => .node .lineBreak []

def dataList : List Inline → List Value
  | [] => []
  | node :: rest => data node :: dataList rest
end

end Inline

def Assignment.fields (assignment : Assignment) : List (String × Value) :=
  [("variable", assignment.variableName), ("source", .text assignment.source.name),
    ("content", .text assignment.content), ("comment", .ofText? assignment.comment)]

namespace Leaf

def nodes : Leaf → List Inline
  | .heading _ nodes | .paragraph nodes => nodes
  | _ => []

def fields : Leaf → List (String × Value)
  | .heading level nodes => [("level", .int level), ("children", .list (Inline.dataList nodes))]
  | .paragraph nodes => [("children", .list (Inline.dataList nodes))]
  | .codeBlock language content =>
    [("language", .ofText? language), ("content", .ofContent content)]
  | .thematicBreak => []
  | .table cells =>
    [("headers", cells.headers.elim .null Value.ofContents),
      ("rows", .list (cells.rows.map Value.ofContents)),
      ("align",
        cells.align.elim .null fun aligns ↦ .list (aligns.map fun align ↦ .text align.name)),
      ("empty_cell", .text cells.emptyCell)]
  | .raw content => [("content", .text content)]
  | .successCriteria items => [("items", .list (items.map Criterion.data))]
  | .offerNext routes => [("routes", .list (routes.map Route.data))]
  | .stagedCall call =>
    [("function", .text call.function), ("args", call.args), ("output", call.output)]
  | .assign assignment => assignment.fields
  | .assignGroup assignments =>
    [("assignments", .list (assignments.map fun assignment ↦ .node .assign assignment.fields))]
  | .breakLoop message => [("message", message.elim .null Value.ofContent)]
  | .endCommand status message =>
    [("status", status.elim .null fun status ↦ .text status.name),
      ("message", message.elim .null Value.ofContent)]
  | .askUser question =>
    [("question", .ofContent question.question),
      ("options", .list (question.options.map Choice.data)), ("output", question.output),
      ("header", .ofText? question.header), ("multi_select", .bool question.multiSelect)]

end Leaf

/-- The fields of a container, apart from its children. -/
def Container.fields : Container → List (String × Value)
  | .blockquote | .group | .elseBranch => []
  | .xmlBlock name attributes =>
    [("name", .text name),
      ("attributes", .record (attributes.map fun entry ↦ (entry.1, .ofContent entry.2)))]
  | .indent spaces => [("spaces", .int spaces)]
  | .executionReference paths marker =>
    [("paths", .list (paths.map Value.text)), ("prefix", .text marker)]
  | .step number name layout =>
    [("number", .text number), ("name", .text name), ("variant", .text layout.name)]
  | .agentSpawn spawn =>
    [("agent", .text spawn.agent), ("model", .text spawn.model),
      ("description", .text spawn.description), ("prompt", spawn.prompt.elim .null Value.ofContent),
      ("input", spawn.input), ("output", spawn.output),
      ("load_from_file", .ofText? spawn.loadFromFile)]
  | .statusBranch output status => [("output", output), ("status", .text status.name)]
  | .conditional condition => [("condition", condition)]
  | .loop bound counter => [("bound", bound), ("counter", counter)]

namespace Block

mutual
def data : Block → Value
  | .leaf content => .node content.kind content.fields
  | .container head children =>
    .node head.kind (head.fields ++ [("children", .list (dataList children))])
  | .item children => .node .listItem [("children", .list (dataList children))]
  | .list ordered start items =>
    .node .list
      [("ordered", .bool ordered), ("start", .int start), ("items", .list (dataItems items))]

def dataList : List Block → List Value
  | [] => []
  | block :: rest => data block :: dataList rest

def dataItems : List (List Block) → List Value
  | [] => []
  | blocks :: rest =>
    .node .listItem [("children", .list (dataList blocks))] :: dataItems rest
end

end Block

def Document.data (document : Document) : Value :=
  .node .document
    [(frontmatterField,
        document.frontmatter.elim .null fun data ↦ .mapping data.entries),
      ("children", .list (Block.dataList document.children))]

/-! ## Well-formedness -/

/-- An environment variable has a name, and a command is not blank. -/
def Assignment.isWellFormed (assignment : Assignment) : Bool :=
  match assignment.source with
  | .env => Text.isIdentifier assignment.content
  | .bash => !Text.isBlankText assignment.content
  | .value => true

/-- A heading has one of six levels, assignments are well-formed, and a group has at least one. -/
def Leaf.isWellFormed : Leaf → Bool
  | .heading level _ => decide (1 ≤ level ∧ level ≤ 6)
  | .assign assignment => assignment.isWellFormed
  | .assignGroup assignments => !assignments.isEmpty && assignments.all Assignment.isWellFormed
  | _ => true

/-- A tagged block has a name that a tag may have. -/
def Container.isWellFormed : Container → Bool
  | .xmlBlock name _ => isTagName name
  | _ => true

/-- A block is well-formed on its own, whatever is below it. -/
def Block.isWellFormed : Block → Bool
  | .leaf content => content.isWellFormed
  | .container head _ => head.isWellFormed
  | .item _ | .list .. => true

/-! ## Reading fields -/

section

variable {α : Type} {fields : List (String × Value)} {name : String} {value : Value}

private theorem Record.ofEntries_record (fields : List (String × Value)) :
    Record.ofEntries (fields.map fun field ↦ (.text field.1, field.2)) = .ofList fields := by
  funext name
  rw [ofEntries, ofList]
  induction fields with
  | nil => rfl
  | cons field rest ih =>
    have htext : ((Value.text field.1).text? == some name) = (field.1 == name) := rfl
    rw [List.map_cons, List.find?_cons, List.lookup_cons]
    dsimp only
    rw [htext]
    by_cases hname : field.1 = name
    · rw [hname, beq_self_eq_true]
      rfl
    · rw [beq_false_of_ne hname, beq_false_of_ne (Ne.symm hname)]
      exact ih

/-- What looks through the fields for one of them finds what stands under its name. -/
theorem Value.find_record {default : α} {read : Value → α} {find : List (Value × Value) → α}
    (hnil : find [] = default)
    (hcons : ∀ other value rest,
      find ((.text other, value) :: rest) = if other = name then read value else find rest)
    (fields : List (String × Value)) :
    find (fields.map fun field ↦ (.text field.1, field.2)) =
      (fields.lookup name).elim default read := by
  induction fields with
  | nil => exact hnil
  | cons field rest ih =>
    rw [List.map_cons, hcons, List.lookup_cons]
    by_cases hname : field.1 = name
    · rw [if_pos hname, hname, beq_self_eq_true]
      rfl
    · rw [if_neg hname, beq_false_of_ne (Ne.symm hname)]
      exact ih

private theorem Read.below_of_lookup {default : Read α} {read : Value → Read α} {result : α}
    (hvalue : fields.lookup name = some value) (hread : read value = .ok result) :
    ((fields.lookup name).elim default fun value ↦ (read value).below name) = .ok result := by
  rw [hvalue, Option.elim_some, hread]
  rfl

private theorem Record.required_ofList {read : Value → Read α} {result : α}
    (hvalue : fields.lookup name = some value) (hread : read value = .ok result) :
    (Record.ofList fields).required name read = .ok result := by
  rw [required, ofList, hvalue]
  dsimp only
  rw [hread]
  rfl

private theorem Record.field_ofList {read : Value → Read α} {default result : α}
    (hvalue : fields.lookup name = some value) (hread : read value = .ok result) :
    (Record.ofList fields).field name default read = .ok result := by
  rw [field, ofList, hvalue]
  dsimp only
  rw [hread]
  rfl

private theorem Read.each_map {read : Value → Read α} {write : α → Value} {items : List α}
    (h : ∀ item ∈ items, read (write item) = .ok item) (index : Nat) :
    Read.each read index (items.map write) = .ok items := by
  induction items generalizing index with
  | nil => rfl
  | cons item rest ih =>
    obtain ⟨hitem, hrest⟩ := List.forall_mem_cons.mp h
    rw [List.map_cons, each, hitem, ih hrest]
    rfl

private theorem Read.list_map {read : Value → Read α} {write : α → Value} {items : List α}
    (h : ∀ item ∈ items, read (write item) = .ok item) :
    Read.list read (.list (items.map write)) = .ok items := each_map h 0

private theorem Read.mapping_record {read : Value → Read α} {write : α → Value}
    (h : ∀ item, read (write item) = .ok item) (items : List (String × α)) :
    Read.mapping read (.record (items.map fun entry ↦ (entry.1, write entry.2))) = .ok items := by
  rw [Value.record, mapping]
  induction items with
  | nil => rfl
  | cons entry rest ih =>
    rw [List.map_cons, List.map_cons, entries, h, ih]
    rfl

private theorem Read.optional_elim {read : Value → Read α} {write : α → Value} (item : Option α)
    (h : ∀ item, read (write item) = .ok item) (hnull : ∀ item, (write item).isNull = false) :
    Read.optional read (item.elim .null write) = .ok item := by
  cases item with
  | none => rfl
  | some item =>
    rw [Option.elim_some, optional]
    · rw [h]
      rfl
    · intro heq
      have hheld := hnull item
      rw [heq] at hheld
      exact Bool.false_ne_true hheld.symm

end

/-! ## Reading scalars -/

private theorem Content.read_ofContent (content : Content) :
    Content.read (.ofContent content) = .ok content := by
  cases content with
  | text | staged => rfl

private theorem Content.list_ofContents (contents : List Content) :
    Read.list Content.read (.ofContents contents) = .ok contents :=
  Read.list_map fun content _ ↦ read_ofContent content

private theorem Content.optional_ofContent (content : Option Content) :
    Read.optional Content.read (content.elim .null Value.ofContent) = .ok content := by
  refine Read.optional_elim content read_ofContent fun content ↦ ?_
  cases content with
  | text | staged => rfl

private theorem Read.optional_ofText? (text : Option String) :
    Read.optional Read.text (.ofText? text) = .ok text := by
  cases text with
  | none | some => rfl

/-- A member of an enumeration is read by its name, if no two members share one. -/
theorem Read.member_name {α : Type} {all : List α} {name : α → String} {member : α}
    (hnames : (all.map name).Nodup) (hmember : member ∈ all) :
    Read.member all name (.text (name member)) = .ok member := by
  have hfind : all.find? (fun other ↦ name other == name member) = some member := by
    induction all with
    | nil => exact absurd hmember List.not_mem_nil
    | cons first rest ih =>
      obtain ⟨hfirst, hrest⟩ := List.nodup_cons.mp hnames
      rw [List.find?_cons]
      rcases List.mem_cons.mp hmember with rfl | hmem
      · rw [beq_self_eq_true]
      · have hne : name first ≠ name member := fun heq ↦
          hfirst (heq ▸ List.mem_map_of_mem hmem)
        rw [beq_false_of_ne hne]
        exact ih hrest hmem
  rw [Read.member, Value.text?, Option.bind_some, hfind]

theorem Alignment.member_name (align : Alignment) :
    Read.member Alignment.all Alignment.name (.text align.name) = .ok align :=
  Read.member_name (by decide) (by cases align <;> decide)

theorem AssignSource.member_name (source : AssignSource) :
    Read.member AssignSource.all AssignSource.name (.text source.name) = .ok source :=
  Read.member_name (by decide) (by cases source <;> decide)

theorem StepLayout.member_name (layout : StepLayout) :
    Read.member StepLayout.all StepLayout.name (.text layout.name) = .ok layout :=
  Read.member_name (by decide) (by cases layout <;> decide)

theorem Status.member_name (status : Status) :
    Read.member Status.all Status.name (.text status.name) = .ok status :=
  Read.member_name (by decide) (by cases status <;> decide)

theorem Choice.read_data (choice : Choice) : Choice.read choice.data = .ok choice := by
  obtain ⟨value, label, description⟩ := choice
  cases description with
  | none | some => rfl

theorem Criterion.read_data (criterion : Criterion) :
    Criterion.read criterion.data = .ok criterion := by
  obtain ⟨text, checked⟩ := criterion
  cases text with
  | text | staged => rfl

theorem Route.read_data (route : Route) : Route.read route.data = .ok route := by
  obtain ⟨name, path, description⟩ := route
  cases description with
  | none | some => rfl

theorem Assignment.check_eq_ok_iff {assignment checked : Assignment} :
    assignment.check = .ok checked ↔ assignment.isWellFormed = true ∧ assignment = checked := by
  obtain ⟨variableName, source, content, comment⟩ := assignment
  cases source with
  | env =>
    by_cases hname : Text.isIdentifier content = true
    · simp [check, isWellFormed, hname]
    · simp [check, isWellFormed, hname, Read.refuse]
  | bash =>
    by_cases hblank : Text.isBlankText content = true
    · simp [check, isWellFormed, hblank, Read.refuse]
    · simp [check, isWellFormed, hblank]
  | value => simp [check, isWellFormed]

/-- A natural number is read from whatever stands for it as an integer, if it is in range. -/
theorem Read.natural_eq_ok_iff {least n : Nat} {most : Option Nat} {value : Value} :
    Read.natural least most value = .ok n ↔
      Read.integer value = .ok (n : Int) ∧ least ≤ n ∧ ∀ greatest ∈ most, n ≤ greatest := by
  rw [natural]
  cases hinteger : integer value with
  | error fault => simp [bind, Except.bind]
  | ok m =>
    change (if m < least then _ else _) = _ ↔ _
    by_cases hleast : m < least
    · simp [hleast, refuse]
      omega
    · rw [if_neg hleast]
      cases most with
      | none =>
        simp only [pure, Except.pure, Except.ok.injEq]
        grind
      | some greatest =>
        simp only [Option.mem_some_iff, forall_eq']
        by_cases hmost : m.toNat ≤ greatest
        · simp only [hmost, if_true, pure, Except.pure, Except.ok.injEq]
          grind
        · simp only [hmost, if_false, refuse, Except.ok.injEq]
          grind

/-! ## Reading nodes -/

theorem Assignment.ofRecord_fields {assignment : Assignment} (h : assignment.isWellFormed = true) :
    ofRecord (.ofList (("kind", .text Kind.assign.name) :: assignment.fields)) =
      .ok assignment := by
  rw [ofRecord, Record.field_ofList rfl (AssignSource.member_name assignment.source), Record.text?,
    Record.field_ofList rfl (Read.optional_ofText? assignment.comment)]
  exact check_eq_ok_iff.mpr ⟨h, rfl⟩

theorem Assignment.read_node {assignment : Assignment} (h : assignment.isWellFormed = true) :
    Assignment.read (.node .assign assignment.fields) = .ok assignment := by
  rw [Value.node, Value.record, read, Record.ofEntries_record, ofRecord_fields h]
  rfl

theorem Leaf.ofRecord_fields {content : Leaf} (h : content.isWellFormed = true) :
    ofRecord content.kind (.ofList (("kind", .text content.kind.name) :: content.fields))
      (.ok content.nodes) = .ok content := by
  cases content with
  | heading level nodes =>
    have hlevel : Read.natural 1 (some 6) (.int level) = .ok level := by
      rw [Read.natural_eq_ok_iff]
      simpa [isWellFormed, Read.integer] using h
    rw [kind, ofRecord, readLevel, Record.required_ofList rfl hlevel]
    rfl
  | paragraph | thematicBreak | raw | stagedCall => rfl
  | codeBlock language content =>
    rw [kind, ofRecord, Record.text?, Record.field_ofList rfl (Read.optional_ofText? language),
      Record.field_ofList rfl (Content.read_ofContent content)]
    rfl
  | table cells =>
    have hheaders : Read.optional (Read.list Content.read)
        (cells.headers.elim .null Value.ofContents) = .ok cells.headers :=
      Read.optional_elim _ Content.list_ofContents fun _ ↦ rfl
    have hrows : Read.list (Read.list Content.read) (.list (cells.rows.map Value.ofContents)) =
        .ok cells.rows := Read.list_map fun row _ ↦ Content.list_ofContents row
    have halign : Read.optional (Read.list (Read.member Alignment.all Alignment.name))
        (cells.align.elim .null fun aligns ↦ .list (aligns.map fun align ↦ .text align.name)) =
          .ok cells.align :=
      Read.optional_elim _ (fun aligns ↦ Read.list_map fun align _ ↦ Alignment.member_name align)
        fun _ ↦ rfl
    rw [kind, ofRecord, Table.ofRecord, Record.field_ofList rfl hheaders,
      Record.field_ofList rfl hrows, Record.field_ofList rfl halign]
    rfl
  | successCriteria items =>
    rw [kind, ofRecord,
      Record.field_ofList rfl (Read.list_map fun item _ ↦ Criterion.read_data item)]
    rfl
  | offerNext routes =>
    rw [kind, ofRecord,
      Record.field_ofList rfl (Read.list_map fun route _ ↦ Route.read_data route)]
    rfl
  | assign assignment =>
    rw [kind, ofRecord, fields, Assignment.ofRecord_fields h]
    rfl
  | assignGroup assignments =>
    obtain ⟨hne, hall⟩ := Bool.and_eq_true_iff.mp h
    have hlist : Read.list Assignment.read (.list (assignments.map fun assignment ↦
        .node .assign assignment.fields)) = .ok assignments :=
      Read.list_map fun assignment hmem ↦
        Assignment.read_node (List.all_eq_true.mp hall assignment hmem)
    have hlength : Read.listOfLength 1 Assignment.read (.list (assignments.map fun assignment ↦
        .node .assign assignment.fields)) = .ok assignments := by
      rw [Read.listOfLength, hlist]
      exact if_neg (by simpa [Nat.lt_one_iff] using hne)
    rw [kind, ofRecord, Record.required_ofList rfl hlength]
    rfl
  | breakLoop message =>
    rw [kind, ofRecord, readMessage, Record.field_ofList rfl (Content.optional_ofContent message)]
    rfl
  | endCommand status message =>
    have hstatus : Read.optional (Read.member Status.all Status.name)
        (status.elim .null fun status ↦ .text status.name) = .ok status :=
      Read.optional_elim _ Status.member_name fun _ ↦ rfl
    rw [kind, ofRecord, Record.field_ofList rfl hstatus, readMessage,
      Record.field_ofList rfl (Content.optional_ofContent message)]
    rfl
  | askUser question =>
    rw [kind, ofRecord, Question.ofRecord,
      Record.required_ofList rfl (Content.read_ofContent question.question),
      Record.field_ofList rfl (Read.list_map fun choice _ ↦ Choice.read_data choice),
      Record.text?, Record.field_ofList rfl (Read.optional_ofText? question.header)]
    rfl

theorem Container.ofRecord_fields {head : Container} (h : head.isWellFormed = true)
    (more : List (String × Value)) :
    ofRecord head.kind (.ofList (("kind", .text head.kind.name) :: (head.fields ++ more))) =
      .ok head := by
  cases head with
  | blockquote | group | elseBranch | conditional | loop => rfl
  | xmlBlock name attributes =>
    have hname : readTagName (.text name) = .ok name := if_pos h
    have hattributes : Read.mapping Content.read
        (.record (attributes.map fun entry ↦ (entry.1, .ofContent entry.2))) = .ok attributes :=
      Read.mapping_record Content.read_ofContent attributes
    rw [kind, ofRecord, Record.required_ofList rfl hname, Record.field_ofList rfl hattributes]
    rfl
  | indent spaces =>
    have hspaces : Read.natural 0 none (.int spaces) = .ok spaces := by
      simp [Read.natural_eq_ok_iff, Read.integer]
    rw [kind, ofRecord, Record.field_ofList rfl hspaces]
    rfl
  | executionReference paths marker =>
    have hpaths : Read.list Read.text (.list (paths.map Value.text)) = .ok paths :=
      Read.list_map fun _ _ ↦ rfl
    rw [kind, ofRecord, Record.field_ofList rfl hpaths]
    rfl
  | step number name layout =>
    rw [kind, ofRecord, Record.field_ofList rfl (StepLayout.member_name layout)]
    rfl
  | agentSpawn spawn =>
    rw [kind, ofRecord, Record.field_ofList rfl (Content.optional_ofContent spawn.prompt),
      Record.text?, Record.field_ofList rfl (Read.optional_ofText? spawn.loadFromFile)]
    rfl
  | statusBranch output status =>
    rw [kind, ofRecord, Record.required_ofList rfl (Status.member_name status)]
    rfl

/-! ## Reading trees of nodes -/

private theorem Record.kindIn_ofList {all : List Kind} {kind : Kind}
    (hnames : (all.map Kind.name).Nodup) (hkind : kind ∈ all) (fields : List (String × Value)) :
    (Record.ofList (("kind", .text kind.name) :: fields)).kindIn all Kind.name = .ok kind := by
  have hfield : Record.ofList (("kind", .text kind.name) :: fields) "kind" =
      some (.text kind.name) := rfl
  rw [kindIn, hfield]
  dsimp only
  rw [Read.member_name hnames hkind]

namespace Inline

theorem readChildren_record (fields : List (String × Value)) :
    readChildren (fields.map fun field ↦ (.text field.1, field.2)) =
      (fields.lookup "children").elim (.ok []) fun value ↦ (readList value).below "children" :=
  Value.find_record (by rw [readChildren]) (fun _ _ _ ↦ by simp [readChildren, Value.text?]) fields

theorem read_node {kind : Kind} (hkind : kind ∈ Kind.inlines) (fields : List (String × Value)) :
    read (.node kind fields) =
      (ofRecord kind (.ofList (("kind", .text kind.name) :: fields))
        ((fields.lookup "children").elim (.ok []) fun value ↦
          (readList value).below "children")).below kind.name := by
  rw [Value.node, Value.record, read, Record.ofEntries_record, readChildren_record,
    Record.kindIn_ofList (by decide) hkind]
  rfl

theorem children_of_lookup {fields : List (String × Value)} {nodes : List Inline}
    (hfield : fields.lookup "children" = some (.list (dataList nodes)))
    (hnodes : readEach 0 (dataList nodes) = .ok nodes) :
    ((fields.lookup "children").elim (.ok []) fun value ↦ (readList value).below "children") =
      .ok nodes :=
  Read.below_of_lookup hfield (by rw [readList, hnodes])

mutual
theorem read_data (node : Inline) : read node.data = .ok node := by
  match node with
  | .text value => rw [data, read_node (by decide)]; rfl
  | .staged value => rw [data, read_node (by decide)]; rfl
  | .bold children =>
    rw [data, read_node (by decide), children_of_lookup rfl (readEach_dataList 0 children)]
    rfl
  | .italic children =>
    rw [data, read_node (by decide), children_of_lookup rfl (readEach_dataList 0 children)]
    rfl
  | .code content =>
    rw [data, read_node (by decide), ofRecord,
      Record.required_ofList rfl (Content.read_ofContent content)]
    rfl
  | .link url children =>
    rw [data, read_node (by decide), children_of_lookup rfl (readEach_dataList 0 children)]
    rfl
  | .lineBreak => rw [data, read_node (by decide)]; rfl

theorem readEach_dataList (index : Nat) (nodes : List Inline) :
    readEach index (dataList nodes) = .ok nodes := by
  match nodes with
  | [] => rw [dataList, readEach]
  | node :: rest =>
    rw [dataList, readEach, read_data node, readEach_dataList (index + 1) rest]
    rfl
end

end Inline

namespace Block

theorem readChildren_record (fields : List (String × Value)) :
    readChildren (fields.map fun field ↦ (.text field.1, field.2)) =
      (fields.lookup "children").elim (.ok []) fun value ↦ (readList value).below "children" :=
  Value.find_record (by rw [readChildren]) (fun _ _ _ ↦ by simp [readChildren, Value.text?]) fields

private theorem readItems_record (fields : List (String × Value)) :
    readItems (fields.map fun field ↦ (.text field.1, field.2)) =
      (fields.lookup "items").elim (.ok []) fun value ↦ (readItemList value).below "items" :=
  Value.find_record (by rw [readItems]) (fun _ _ _ ↦ by simp [readItems, Value.text?]) fields

theorem read_node {kind : Kind} (hkind : kind ∈ Kind.blocks) (fields : List (String × Value)) :
    read (.node kind fields) =
      (ofRecord kind (.ofList (("kind", .text kind.name) :: fields))
        ((fields.lookup "children").elim (.ok []) fun value ↦
          (Inline.readList value).below "children")
        ((fields.lookup "children").elim (.ok []) fun value ↦ (readList value).below "children")
        ((fields.lookup "items").elim (.ok []) fun value ↦
          (readItemList value).below "items")).below kind.name := by
  rw [Value.node, Value.record, read, Record.ofEntries_record, Inline.readChildren_record,
    readChildren_record, readItems_record, Record.kindIn_ofList (by decide) hkind]
  rfl

private theorem read_leaf {content : Leaf} (h : content.isWellFormed = true) :
    read (Block.leaf content).data = .ok (.leaf content) := by
  have hkind : content.kind ∈ Kind.blocks := by
    cases content <;> simp [Leaf.kind, Kind.blocks]
  have hnodes : ((content.fields.lookup "children").elim (.ok []) fun value ↦
      (Inline.readList value).below "children") = .ok content.nodes := by
    cases content with
    | heading | paragraph => exact Inline.children_of_lookup rfl (Inline.readEach_dataList 0 _)
    | _ => rfl
  have hleaf : ∀ record inlines blocks items,
      ofRecord content.kind record inlines blocks items =
        (do return .leaf (← Leaf.ofRecord content.kind record inlines)) := by
    cases content <;> exact fun _ _ _ _ ↦ rfl
  rw [data, read_node hkind, hnodes, hleaf, Leaf.ofRecord_fields h]
  rfl

theorem children_of_lookup {fields : List (String × Value)} {blocks : List Block}
    (hfield : fields.lookup "children" = some (.list (dataList blocks)))
    (hblocks : readEach 0 (dataList blocks) = .ok blocks) :
    ((fields.lookup "children").elim (.ok []) fun value ↦ (readList value).below "children") =
      .ok blocks :=
  Read.below_of_lookup hfield (by rw [readList, hblocks])

private theorem read_container {head : Container} {children : List Block}
    (h : head.isWellFormed = true) (hchildren : readEach 0 (dataList children) = .ok children) :
    read (Block.container head children).data = .ok (.container head children) := by
  have hkind : head.kind ∈ Kind.blocks := by
    cases head <;> simp [Container.kind, Kind.blocks]
  have hfield : (head.fields ++ [("children", Value.list (dataList children))]).lookup "children" =
      some (.list (dataList children)) := by
    cases head <;> rfl
  have hcontainer : ∀ record inlines blocks items,
      ofRecord head.kind record inlines blocks items =
        (do
          let head ← Container.ofRecord head.kind record
          return .container head (← blocks)) := by
    cases head <;> exact fun _ _ _ _ ↦ rfl
  rw [data, read_node hkind, children_of_lookup hfield hchildren, hcontainer,
    Container.ofRecord_fields h]
  rfl

private theorem readItem_node {blocks : List Block}
    (h : readEach 0 (dataList blocks) = .ok blocks) :
    readItem (.node .listItem [("children", .list (dataList blocks))]) = .ok blocks := by
  rw [Value.node, Value.record, readItem, Record.ofEntries_record, readChildren_record,
    children_of_lookup rfl h]
  rfl

private theorem items_of_lookup {fields : List (String × Value)} {items : List (List Block)}
    (hfield : fields.lookup "items" = some (.list (dataItems items)))
    (hitems : readEachItem 0 (dataItems items) = .ok items) :
    ((fields.lookup "items").elim (.ok []) fun value ↦ (readItemList value).below "items") =
      .ok items :=
  Read.below_of_lookup hfield (by rw [readItemList, hitems])

private theorem read_list (ordered : Bool) (start : Nat) {items : List (List Block)}
    (h : readEachItem 0 (dataItems items) = .ok items) :
    read (Block.list ordered start items).data = .ok (.list ordered start items) := by
  have hordered : Read.bool (.bool ordered) = .ok ordered := rfl
  have hstart : Read.natural 0 none (.int start) = .ok start := by
    simp [Read.natural_eq_ok_iff, Read.integer]
  rw [data, read_node (by decide), items_of_lookup rfl h, ofRecord, readListHead,
    Record.field_ofList rfl hordered, Record.field_ofList rfl hstart]
  rfl

mutual
/-- A block that is well-formed at every depth is read from its data. -/
theorem read_data (block : Block) (h : block.Everywhere (isWellFormed · = true)) :
    read block.data = .ok block := by
  match block with
  | .leaf content => exact read_leaf (everywhere_iff.mp h).1
  | .container head children =>
    obtain ⟨own, below⟩ := everywhere_iff.mp h
    exact read_container own (readEach_dataList 0 children below)
  | .item children =>
    rw [data, read_node (by decide),
      children_of_lookup rfl (readEach_dataList 0 children (everywhere_iff.mp h).2)]
    rfl
  | .list ordered start items =>
    exact read_list ordered start (readEachItem_dataItems 0 items (everywhere_iff.mp h).2)

theorem readEach_dataList (index : Nat) (blocks : List Block)
    (h : ∀ block ∈ blocks, block.Everywhere (isWellFormed · = true)) :
    readEach index (dataList blocks) = .ok blocks := by
  match blocks with
  | [] => rw [dataList, readEach]
  | block :: rest =>
    obtain ⟨hblock, hrest⟩ := List.forall_mem_cons.mp h
    rw [dataList, readEach, read_data block hblock, readEach_dataList (index + 1) rest hrest]
    rfl

theorem readEachItem_dataItems (index : Nat) (items : List (List Block))
    (h : ∀ block ∈ items.map Block.item, block.Everywhere (isWellFormed · = true)) :
    readEachItem index (dataItems items) = .ok items := by
  match items with
  | [] => rw [dataItems, readEachItem]
  | blocks :: rest =>
    obtain ⟨hblocks, hrest⟩ := List.forall_mem_cons.mp h
    rw [dataItems, readEachItem,
      readItem_node (readEach_dataList 0 blocks (everywhere_iff.mp hblocks).2),
      readEachItem_dataItems (index + 1) rest hrest]
    rfl
end

end Block

/-! ## Reading frontmatter -/

namespace Datum

mutual
theorem ofValue_toValue (place : String) (datum : Datum) :
    ofValue place datum.toValue = .ok datum := by
  match datum with
  | .null | .bool _ | .int _ | .float _ | .text _ | .staged _ | .member _ =>
    simp only [toValue, ofValue]
  | .list items | .tuple items =>
    simp only [toValue, ofValue, ofItems_toValues place 0 items]
    rfl
  | .map entries =>
    simp only [toValue, ofValue, ofEntries_toEntries place entries]
    rfl

theorem ofItems_toValues (place : String) (index : Nat) (items : List Datum) :
    ofItems place index (toValues items) = .ok items := by
  match items with
  | [] => rw [toValues, ofItems]
  | item :: rest =>
    rw [toValues, ofItems, ofValue_toValue _ item, ofItems_toValues place (index + 1) rest]
    rfl

theorem ofEntries_toEntries (place : String) (entries : List (DatumKey × Datum)) :
    ofEntries place (toEntries entries) = .ok entries := by
  match entries with
  | [] => rw [toEntries, ofEntries]
  | (key, item) :: rest =>
    have hkey : DatumKey.ofValue? key.toValue = some key := by cases key <;> rfl
    rw [toEntries, ofEntries, hkey]
    dsimp only
    rw [ofValue_toValue _ item, ofEntries_toEntries place rest]
    rfl
end

private theorem ofFields_toValue (place : String) (data : Frontmatter) :
    ofFields place (data.map fun entry ↦ (entry.1, entry.2.toValue)) = .ok data := by
  induction data with
  | nil => rfl
  | cons entry rest ih =>
    rw [List.map_cons, ofFields, ofValue_toValue, ih]
    rfl

private theorem readFrontmatter_entries (data : Frontmatter) :
    readFrontmatter (.mapping data.entries) = .ok data := by
  have hentries : Read.mapping (.ok ·) (.mapping data.entries) =
      .ok (data.map fun entry ↦ (entry.1, entry.2.toValue)) := by
    have hrecord : Read.mapping (.ok ·) (.record ((data.map fun entry ↦
        (entry.1, entry.2.toValue)).map fun entry ↦ (entry.1, id entry.2))) = _ :=
      Read.mapping_record (fun _ ↦ rfl) _
    rw [Value.record, List.map_map, List.map_map] at hrecord
    exact hrecord
  rw [readFrontmatter, hentries]
  dsimp only [bind, Except.bind]
  rw [ofFields_toValue]
  rfl

end Datum

theorem Document.read_data {document : Document}
    (h : ∀ block ∈ document.children, block.Everywhere (Block.isWellFormed · = true)) :
    Document.read document.data = .ok document := by
  have hfrontmatter : Read.optional Datum.readFrontmatter (document.frontmatter.elim .null
      fun data ↦ .mapping data.entries) = .ok document.frontmatter :=
    Read.optional_elim _ Datum.readFrontmatter_entries fun _ ↦ rfl
  rw [data, Value.node, Value.record, read, Record.ofEntries_record, Block.readChildren_record,
    Block.children_of_lookup rfl (Block.readEach_dataList 0 document.children h), ofRecord,
    Record.field_ofList rfl hfrontmatter]
  rfl

-- The data of a document that is not well-formed is refused.
example : (Document.read (Document.data { children := [.leaf (.heading 7 [])] })).toBool = false :=
  rfl

end Runbook
