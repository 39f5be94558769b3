import Runbook.Function.Registry
import Runbook.Lowering.Counter
import Runbook.Lowering.Element
import Runbook.Lowering.Error
import Runbook.Lowering.Tag
import Runbook.Schema.Block
import Runbook.Schema.Condition

/-!
# Blocks from props

Most of an element stands in its props. They are read by the same rules as the fields of a node, so
that what cannot be read is reported with the name of the field. Props may have two spellings.
-/

namespace Runbook

/-- Lowering counts the names that it allocates, also if it fails in the end. -/
abbrev Lower := ExceptT LowerError (StateM Counters)

/-- The element that is being lowered: where it stands, and all that it holds. -/
structure Site where
  path : TreePath
  name : String
  props : List (String × Value)
  children : List Value
deriving Repr, Inhabited

namespace Site

def refuse {α : Type} (site : Site) (problem : LowerProblem) : Except LowerError α :=
  .error (.located site.path (some site.name) problem)

def refuseChild {α : Type} (site : Site) (index : Nat) (problem : LowerProblem) :
    Except LowerError α :=
  .error (.located (site.path ++ [index]) (some site.name) problem)

/-- What was read from the props of the element. -/
def made {α : Type} (site : Site) (read : Read α) : Except LowerError α :=
  match read with
  | .ok value => .ok value
  | .error fault => site.refuse (.invalid fault)

/-- A prop under one of several names, or nothing. -/
def prop (site : Site) (names : List String) : Value := (prop? site.props names).getD .null

/-- A prop under one of several names, or a default. -/
def propD (site : Site) (names : List String) (default : Value) : Value :=
  (prop? site.props names).getD default

/-- A prop that has to be there; the first name is the one that is reported. -/
def require (site : Site) (name : String) (others : List String) : Except LowerError Value :=
  match prop? site.props (name :: others) with
  | some value => .ok value
  | none => site.refuse (.missingProp name)

end Site

/-- What a value lists; what counts as false lists nothing. -/
def listed (value : Value) : Except LowerError (List Value) :=
  if value.truthy then
    match value.elements? with
    | some items => .ok items
    | none => .error .notListed
  else .ok []

/-! ## Text content -/

namespace Value

/-- Children that leave no trace. -/
def isSkipped : Value → Bool
  | .null | .bool _ => true
  | _ => false

/-- A text without any character that is not blank. -/
def isBlank (value : Value) : Bool := value.text?.any Text.isBlankText

/-- The text that a child is as content. -/
def plainText? : Value → Option String
  | .int n => some (toString n)
  | .float x => some x.literal
  | value => value.text?

end Value

/-- The text of children that are all text or numbers. -/
def plainTexts? : List Value → Option (List String)
  | [] => some []
  | child :: rest => do
    let first ← child.plainText?
    let others ← plainTexts? rest
    return first :: others

/-- The text content of children: one staged value, or texts and numbers. -/
def textContent? (children : List Value) : Option Content :=
  match children.filter fun child ↦ !child.isSkipped with
  | [.staged value] => some (.staged value)
  | texts => (plainTexts? texts).map fun parts ↦ .text (Text.join "" parts)

def Site.text (site : Site) : Except LowerError Content :=
  match textContent? site.children with
  | some content => .ok content
  | none => site.refuse .notText

/-! ## Leaves -/

/-- A text without line feeds at its ends; other values are kept. -/
def trimmedContent (value : Value) : Value :=
  value.text?.elim value fun s ↦ .text (Text.trimLineFeeds s)

/-- The first value, unless it counts as false. -/
def orElse (value other : Value) : Value := if value.truthy then value else other

/-- The language that the class of a code element names. -/
def classLanguage (className : Value) : Except LowerError Value :=
  match (orElse className (.text "")).text? with
  | some s =>
    match Text.stripStart? "language-".toList s.toList with
    | some language => .ok (.text (String.ofList language))
    | none => .ok .null
  | none => .error .notTextProp

/-- The language and the content of a code block. A single code element inside it gives both. -/
def codeFields (site : Site) : Except LowerError (Value × Value) := do
  let language := site.prop ["language", "lang"]
  let content := site.prop ["content"]
  if !content.isNull then return (language, content)
  match site.children.filter fun child ↦ !child.isBlank with
  | [.element "code" props children] =>
    let inner : Site := ⟨site.path ++ [0], "code", props, children⟩
    let named ← if language.isNull then
        classLanguage (inner.propD ["className", "class_name"] (.text ""))
      else .ok language
    let text ← inner.text
    return (orElse named (inner.prop ["language", "lang"]), .ofContent text)
  | _ => return (language, .ofContent (← site.text))

def codeLeaf (site : Site) : Except LowerError Leaf := do
  let (language, content) ← codeFields site
  site.made (Leaf.ofRecord .codeBlock
    (.ofList [("language", language), ("content", trimmedContent content)]) (.ok []))

/-- A cell of a table: nothing is an empty cell, and other values are shown. -/
def cellValue (emptyCell : Value) : Value → Value
  | .null => emptyCell
  | .text s => .text s
  | .member m => .text m.text
  | .staged v => .staged v
  | value => .text value.display

/-- The rows of a table. -/
def rowValues (emptyCell : Value) : List Value → Except LowerError (List Value)
  | [] => .ok []
  | row :: rest =>
    match row.elements? with
    | none => .error .notListed
    | some cells => do
      let others ← rowValues emptyCell rest
      return .list (cells.map (cellValue emptyCell)) :: others

def tableLeaf (site : Site) : Except LowerError Leaf := do
  let emptyCell := site.propD ["empty_cell", "emptyCell"] (.text "")
  let headers := site.prop ["headers"]
  let headerCells ← listed headers
  let rows ← rowValues emptyCell (← listed (site.prop ["rows"]))
  let headerValue : Value :=
    if headers.truthy then .list (headerCells.map (cellValue emptyCell)) else .null
  site.made (Leaf.ofRecord .table
    (.ofList [("headers", headerValue), ("rows", .list rows), ("align", site.prop ["align"]),
      ("empty_cell", emptyCell)]) (.ok []))

/-- Markdown that is passed through. -/
def markdownLeaf (site : Site) : Except LowerError Leaf := do
  let given := site.prop ["content"]
  let content ← if given.isNull then (site.text).map Value.ofContent else .ok given
  match content.text? with
  | some s => return .raw s
  | none => site.refuse .notMarkdown

def hasTextKeys (entries : List (Value × Value)) : Bool :=
  entries.all fun entry ↦ entry.1.text?.isSome

/-- What is read from the entries of a mapping, which have to be named by texts. -/
def fromEntries {α : Type} (site : Site) (entries : List (Value × Value))
    (read : Record → Read α) : Except LowerError α :=
  if hasTextKeys entries then site.made (read (.ofEntries entries)) else .error .badFieldNames

/-- A criterion from a text, a staged value or a mapping. -/
def criterionOf (site : Site) : Value → Except LowerError Criterion
  | .text s => .ok ⟨.text s, false⟩
  | .member m => .ok ⟨.text m.text, false⟩
  | .staged v => .ok ⟨.staged v, false⟩
  | .mapping entries => fromEntries site entries Criterion.ofRecord
  | .criterion c => .ok c
  | _ => site.refuse .notCriterion

def routeOf (site : Site) : Value → Except LowerError Route
  | .mapping entries => fromEntries site entries Route.ofRecord
  | .route r => .ok r
  | _ => site.refuse .notRoute

def criteriaLeaf (site : Site) : Except LowerError Leaf := do
  let items ← listed (site.prop ["items"])
  return .successCriteria (← items.mapM (criterionOf site))

/-- The routes that are offered next. -/
def routesLeaf (site : Site) : Except LowerError Leaf := do
  let routes ← listed (site.prop ["routes"])
  return .offerNext (← routes.mapM (routeOf site))

def choiceOf (site : Site) : Value → Except LowerError Choice
  | .mapping entries => fromEntries site entries Choice.ofRecord
  | .choice c => .ok c
  | _ => site.refuse .notChoice

/-- The sources of an assignment that an element names. -/
def assignmentSources (props : List (String × Value)) : List (AssignSource × Value) :=
  [AssignSource.bash, .value, .env].filterMap fun source ↦
    (props.lookup source.name).map fun content ↦ (source, content)

/-- The content of an assignment; numbers are shown. -/
def assignedContent : Value → Value
  | .int n => .text (toString n)
  | .float x => .text x.literal
  | value => value

def assignmentOf (site : Site) : Except LowerError Assignment := do
  match assignmentSources site.props with
  | [(source, content)] =>
    let variableName ← site.require "var" ["variable"]
    site.made (Assignment.ofRecord
      (.ofList [("variable", variableName), ("source", .text source.name),
        ("content", assignedContent content), ("comment", site.prop ["comment"])]))
  | _ => site.refuse .assignmentSource

/-- The assignments among the children of a group, from the given index on. -/
def assignmentsOf (site : Site) (index : Nat) : List Value → Except LowerError (List Assignment)
  | [] => .ok []
  | child :: rest =>
    if child.isSkipped || child.isBlank then assignmentsOf site (index + 1) rest
    else match child with
      | .element "Assign" props children => do
        let first ← assignmentOf ⟨site.path ++ [index], "Assign", props, children⟩
        let others ← assignmentsOf site (index + 1) rest
        return first :: others
      | _ => site.refuseChild index .notAssignment

/-- A group of assignments, which has at least one. -/
def assignGroupLeaf (site : Site) : Except LowerError Leaf := do
  let assignments ← assignmentsOf site 0 site.children
  if assignments.isEmpty then
    site.made (Read.below "assignments" (Read.refuse (.shortList 1 0)))
  else return .assignGroup assignments

/-- The message of a break or an early end: a prop, or else text content. -/
def messageOf (site : Site) : Except LowerError Value := do
  let message := site.prop ["message"]
  if message.isNull && !site.children.isEmpty then
    return orElse (.ofContent (← site.text)) .null
  else return message

def questionLeaf (site : Site) : Except LowerError Leaf := do
  let options ← (← listed (site.prop ["options"])).mapM (choiceOf site)
  let question ← site.require "question" []
  let output ← site.require "output" []
  let multiSelect := (site.prop ["multi_select", "multiSelect"]).truthy
  site.made (Leaf.ofRecord .askUser
    (.ofList [("question", question), ("options", .list (options.map .choice)), ("output", output),
      ("header", site.prop ["header"]), ("multi_select", .bool multiSelect)]) (.ok []))

/-- The function with the given name; `shown` is how the name is reported. -/
def functionNamed (registry : Registry) (site : Site) (name shown : String) :
    Except LowerError Handle :=
  match registry.get? name with
  | some handle => .ok handle
  | none => site.refuse (.notRegistered shown)

def calledFunction (registry : Registry) (site : Site) : Except LowerError Handle := do
  match ← site.require "fn" ["function"] with
  | .handle handle =>
    if registry.holds handle then return handle else site.refuse (.notRegistered handle.name)
  | .text name => functionNamed registry site name name
  | .member m => functionNamed registry site m.text m.display
  | value => site.refuse (.notFunction value.typeName)

/-- A name for the output of a call that has none. -/
def allocateOutput (stem : String) : Lower Value := do
  let (name, counters) := Counters.allocate stem (← get)
  set counters
  return .staged ⟨name, []⟩

/-- A call of a staged function. Without an output, one is allocated from the function's name. -/
def callLeaf (registry : Registry) (site : Site) : Lower Leaf := do
  let handle ← calledFunction registry site
  let given := site.prop ["output"]
  let output ← if given.isNull then allocateOutput handle.name else pure given
  return .stagedCall ⟨handle.name, site.propD ["args"] (.mapping []), output⟩

def lowerLeaf (registry : Registry) (tag : LeafTag) (site : Site) : Lower Leaf :=
  match tag with
  | .codeBlock => codeLeaf site
  | .rule => pure .thematicBreak
  | .table => tableLeaf site
  | .markdown => markdownLeaf site
  | .successCriteria => criteriaLeaf site
  | .offerNext => routesLeaf site
  | .call => callLeaf registry site
  | .assign => do return .assign (← assignmentOf site)
  | .assignGroup => assignGroupLeaf site
  | .breakLoop => do
    let message ← messageOf site
    site.made (Leaf.ofRecord .breakLoop (.ofList [("message", message)]) (.ok []))
  | .endCommand => do
    let message ← messageOf site
    site.made (Leaf.ofRecord .endCommand
      (.ofList [("status", site.prop ["status"]), ("message", message)]) (.ok []))
  | .askUser => questionLeaf site

/-! ## Containers -/

/-- The fields of a container before they are checked. -/
structure Draft where
  kind : Kind
  fields : List (String × Value) := []
deriving Repr, Inhabited

/-- The fields of a tagged block. -/
def xmlDraft (site : Site) : Except LowerError Draft := do
  let name ← site.require "name" []
  let attributes := orElse (site.prop ["attributes"]) (.mapping [])
  return ⟨.xmlBlock, [("name", name), ("attributes", attributes)]⟩

/-- The condition of a conditional: a condition, or a test. A test that is a text is one of the
shell. -/
def conditionOf (site : Site) : Except LowerError Value := do
  match prop? site.props ["condition"] with
  | some condition => return condition
  | none =>
    let given ← site.require "test" []
    match given.text? with
    | some test =>
      let condition ← site.made (Condition.shellTestOfRecord (.ofList [("test", .text test)]))
      return .condition condition
    | none => return given

/-- The fields that an element gives a container. -/
def draftContainer (tag : ContainerTag) (site : Site) : Except LowerError Draft :=
  match tag with
  | .blockquote => .ok ⟨.blockquote, []⟩
  | .xmlBlock => xmlDraft site
  | .division => if (site.prop ["name"]).truthy then xmlDraft site else .ok ⟨.group, []⟩
  | .indent => .ok ⟨.indent, [("spaces", site.propD ["spaces"] (.int 2))]⟩
  | .executionContext =>
    .ok ⟨.executionReference,
      [("paths", orElse (site.prop ["paths"]) (.list [])),
        ("prefix", site.propD ["prefix"] (.text "@"))]⟩
  | .step => do
    let number ← site.require "number" []
    let name ← site.require "name" []
    return ⟨.step,
      [("number", number), ("name", name), ("variant", site.propD ["variant"] (.text "heading"))]⟩
  | .spawnAgent => do
    let agent ← site.require "agent" []
    let model ← site.require "model" []
    let description ← site.require "description" []
    return ⟨.agentSpawn,
      [("agent", agent), ("model", model), ("description", description),
        ("prompt", site.prop ["prompt"]), ("input", site.prop ["input"]),
        ("output", site.prop ["output"]),
        ("load_from_file", site.prop ["load_from_file", "loadFromFile"])]⟩
  | .onStatus => do
    let output ← site.require "output" []
    let status ← site.require "status" []
    return ⟨.statusBranch, [("output", output), ("status", status)]⟩
  | .ifTrue => do return ⟨.conditional, [("condition", ← conditionOf site)]⟩
  | .otherwise => .ok ⟨.elseBranch, []⟩
  | .loop => do
    let bound ← site.require "max" ["bound"]
    return ⟨.loop, [("bound", bound), ("counter", site.prop ["counter"])]⟩

/-- The head of a container from its fields. -/
def checkDraft (site : Site) (draft : Draft) : Except LowerError Container :=
  site.made (Container.ofRecord draft.kind (.ofList draft.fields))

end Runbook
