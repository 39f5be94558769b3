import Runbook.Condition.Basic
import Runbook.Document.Entry
import Runbook.Function.Handle

/-!
# Values

Authors hand over untyped data: scalars, sequences and mappings, and among them staged values,
conditions, elements of an element tree, records and handles of functions. `Value` is the type of
all of it. A mapping keeps its entries in the order in which their keys were first set.
-/

namespace Runbook

/-- A member of an enumeration of texts. It does for the text wherever one is wanted, but shows as
the member that it is. -/
structure Member where
  enumeration : String
  label : String
  text : String
deriving DecidableEq, Repr, Inhabited

/-- Data as an author hands it over. -/
inductive Value where
  | null
  | bool (value : Bool)
  | int (value : Int)
  | float (value : Binary64)
  | text (value : String)
  | list (items : List Value)
  /-- A sequence that cannot change; it may be a key. -/
  | tuple (items : List Value)
  | mapping (entries : List (Value × Value))
  | staged (value : Staged)
  | condition (value : Condition)
  | member (value : Member)
  | element (name : String) (props : List (String × Value)) (children : List Value)
  | choice (value : Choice)
  | criterion (value : Criterion)
  | route (value : Route)
  | handle (value : Handle)
  /-- Something of an unrelated type, known only by the name of that type. -/
  | foreign (typeName : String)
deriving Repr, Inhabited

/-! ## Names of types -/

/-- The name of a condition's type in messages. -/
def Condition.typeName : Condition → String
  | .ref _ => "RefCondition"
  | .literal _ => "LiteralCondition"
  | .not _ => "NotCondition"
  | .all _ => "AndCondition"
  | .any _ => "OrCondition"
  | .compare .. => "CompareCondition"
  | .shellTest _ => "ShellTestCondition"

namespace Value

/-- The name of a value's type in messages. -/
def typeName : Value → String
  | .null => "NoneType"
  | .bool _ => "bool"
  | .int _ => "int"
  | .float _ => "float"
  | .text _ => "str"
  | .list _ => "list"
  | .tuple _ => "tuple"
  | .mapping _ => "dict"
  | .staged _ => "StagedValue"
  | .condition c => c.typeName
  | .member m => m.enumeration
  | .element .. => "ElementNode"
  | .choice _ => "AskUserOption"
  | .criterion _ => "SuccessCriterion"
  | .route _ => "OfferNextRoute"
  | .handle _ => "StagedFunction"
  | .foreign name => name

/-! ## Views -/

/-- Everything but nothing, false, zero and what is empty. -/
def truthy : Value → Bool
  | .null => false
  | .bool b => b
  | .int n => n != 0
  | .float x => !x.isZero
  | .text s => !s.isEmpty
  | .member m => !m.text.isEmpty
  | .list items | .tuple items => !items.isEmpty
  | .mapping entries => !entries.isEmpty
  | _ => true

def isNull : Value → Bool
  | .null => true
  | _ => false

def text? : Value → Option String
  | .text s => some s
  | .member m => some m.text
  | _ => none

def items? : Value → Option (List Value)
  | .list items | .tuple items => some items
  | _ => none

/-- The value that a content slot holds. -/
def ofContent : Content → Value
  | .text s => .text s
  | .staged v => .staged v

/-- The value that an optional text slot holds. -/
def ofText? : Option String → Value
  | none => .null
  | some s => .text s

/-- The value on the right of a comparison. -/
def ofOperand : Operand → Value
  | .null => .null
  | .bool b => .bool b
  | .int n => .int n
  | .float x => .float x
  | .text s => .text s
  | .staged v => .staged v

/-- The value of one step of a path. -/
def ofSegment : Segment → Value
  | .key name => .text name.shown
  | .index position => .int position

/-- The step that a value describes. -/
def segment? : Value → Option Segment
  | .text name => some (.key name)
  | .member m => some (.key m.text)
  | .int position => some (.index position)
  | _ => none

/-! ## Staged leaves -/

mutual
/-- The staged values inside a composite value, from left to right. Keys do not count, nor does what
is inside an element. -/
def stagedLeaves : Value → List Staged
  | .staged v => [v]
  | .mapping entries => entriesStagedLeaves entries
  | .list items => itemsStagedLeaves items
  | .tuple items => itemsStagedLeaves items
  | _ => []

/-- The staged values inside the items of a sequence. -/
def itemsStagedLeaves : List Value → List Staged
  | [] => []
  | item :: rest => stagedLeaves item ++ itemsStagedLeaves rest

/-- The staged values inside the entries of a mapping. -/
def entriesStagedLeaves : List (Value × Value) → List Staged
  | [] => []
  | (_, value) :: rest => stagedLeaves value ++ entriesStagedLeaves rest
end

end Value

/-! ## Conditions from values -/

namespace Condition

/-- The condition that a value stands for: a truth value is a literal and a staged value a test of
its truth. -/
def ofValue? : Value → Option Condition
  | .condition c => some c
  | .bool b => some (.literal b)
  | .staged v => some (.ref v)
  | _ => none

end Condition

/-! ## Steps from values -/

namespace Staged

/-- The message on data that is no step. -/
def segmentMessage (value : Value) : String :=
  "path segment must be str or int, got " ++ value.typeName

/-- The value below `value` along steps given as data; the first one that is no step is returned
instead. -/
def descend (value : Staged) : List Value → Except Value Staged
  | [] => .ok value
  | step :: rest =>
    match step.segment? with
    | some segment => (value.project segment).descend rest
    | none => .error step

end Staged

end Runbook
