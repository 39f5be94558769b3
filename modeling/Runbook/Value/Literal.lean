import Runbook.Number.Shortest
import Runbook.Text.Escape
import Runbook.Text.Lines
import Runbook.Text.Upper
import Runbook.Value.Basic

/-!
# Literal text of values

`Value.literal` writes a value so that its type can be seen: texts are quoted, and a record shows
its type and its fields. `Value.display` is the text of a value that stands alone: a text is itself
and a record shows its fields only.
-/

namespace Runbook

/-- `True` or `False`. -/
def literalBool (b : Bool) : String := if b then "True" else "False"

/-- The items of a sequence that is written in parentheses; a single item keeps a comma. -/
def literalTuple (items : List String) : String :=
  match items with
  | [item] => "(" ++ item ++ ",)"
  | _ => "(" ++ Text.join ", " items ++ ")"

/-- The items of a sequence that is written in brackets. -/
def literalList (items : List String) : String := "[" ++ Text.join ", " items ++ "]"

/-- The fields of a record, each with its literal text. -/
abbrev Fields := List (String × String)

namespace Fields

/-- The fields as `name=text`. -/
def assignments (fields : Fields) : List String := fields.map fun (name, text) ↦ name ++ "=" ++ text

def withName (typeName : String) (fields : Fields) : String :=
  typeName ++ "(" ++ Text.join ", " fields.assignments ++ ")"

/-- A record without the name of its type. -/
def alone (fields : Fields) : String := Text.join " " fields.assignments

end Fields

namespace Segment

/-- The literal text of a step. -/
def literal : Segment → String
  | .key name => name.quoted
  | .index position => toString position

end Segment

def literalText? : Option String → String
  | none => "None"
  | some text => Text.quoted text

namespace Staged

def fields (value : Staged) : Fields :=
  [("root", Text.quoted value.root), ("path", literalTuple (value.path.map Segment.literal))]

/-- The literal text of a staged value. -/
def literal (value : Staged) : String := value.fields.withName "StagedValue"

end Staged

def Content.literal : Content → String
  | .text s => Text.quoted s
  | .staged v => v.literal

/-- The literal text of the right side of a comparison. -/
def Operand.literal : Operand → String
  | .null => "None"
  | .bool b => literalBool b
  | .int n => toString n
  | .float x => x.literal
  | .text s => Text.quoted s
  | .staged v => v.literal

namespace Member

/-- The member of an enumeration that is the given text; its label is the text in capitals. -/
def ofText (enumeration text : String) : Member := ⟨enumeration, Text.constantCase text, text⟩

/-- The text of a member that stands alone. -/
def display (member : Member) : String := member.enumeration ++ "." ++ member.label

def literal (member : Member) : String :=
  "<" ++ member.display ++ ": " ++ Text.quoted member.text ++ ">"

end Member

def CompareOp.member (op : CompareOp) : Member := .ofText "CompareOp" op.name

namespace Condition

/-- A condition with the name of its type, from the fields after its kind. -/
def withFields (condition : Condition) (fields : Fields) : String :=
  Fields.withName condition.typeName (("kind", Text.quoted condition.form.name) :: fields)

mutual
/-- The fields of a condition after its kind. -/
def ownFields : Condition → Fields
  | .ref value => [("value", value.literal)]
  | .literal value => [("value", literalBool value)]
  | .not operand => [("operand", operand.withFields (ownFields operand))]
  | .all operands => [("operands", literalList (literalTexts operands))]
  | .any operands => [("operands", literalList (literalTexts operands))]
  | .compare op left right =>
    [("op", op.member.literal), ("left", left.literal), ("right", right.literal)]
  | .shellTest test => [("test", Text.quoted test)]

def literalTexts : List Condition → List String
  | [] => []
  | condition :: rest => condition.withFields (ownFields condition) :: literalTexts rest
end

def fields (condition : Condition) : Fields :=
  ("kind", Text.quoted condition.form.name) :: condition.ownFields

def literalText (condition : Condition) : String := condition.withFields condition.ownFields

end Condition

def Choice.fields (choice : Choice) : Fields :=
  [("value", Text.quoted choice.value), ("label", Text.quoted choice.label),
    ("description", literalText? choice.description)]

def Criterion.fields (criterion : Criterion) : Fields :=
  [("text", criterion.text.literal), ("checked", literalBool criterion.checked)]

def Route.fields (route : Route) : Fields :=
  [("name", Text.quoted route.name), ("path", Text.quoted route.path),
    ("description", literalText? route.description)]

def Shape.literal (shape : Shape) : String := (Member.ofText "ValueShape" shape.name).literal

def Signature.fields (signature : Signature) : Fields :=
  [("inputs", literalTuple (signature.inputs.map Shape.literal)),
    ("output", signature.output.literal)]

def Handle.fields (handle : Handle) : Fields :=
  [("name", Text.quoted handle.name),
    ("signature", handle.signature.fields.withName "StagedSignature"),
    ("source", Text.quoted handle.source), ("is_async", literalBool handle.isAsync),
    ("imports", literalTuple (handle.imports.map Text.quoted)),
    ("constants", literalTuple (handle.constants.map Text.quoted))]

namespace Value

mutual
def literal : Value → String
  | .null => "None"
  | .bool b => literalBool b
  | .int n => toString n
  | .float x => x.literal
  | .text s => Text.quoted s
  | .list items => literalList (literals items)
  | .tuple items => literalTuple (literals items)
  | .mapping entries => "\x7b" ++ Text.join ", " (entryLiterals entries) ++ "\x7d"
  | .staged v => v.literal
  | .condition c => c.literalText
  | .member m => m.literal
  | .element name props children =>
    Fields.withName "ElementNode"
      [("name", Text.quoted name),
        ("props", "\x7b" ++ Text.join ", " (propLiterals props) ++ "\x7d"),
        ("children", literalList (literals children))]
  | .choice c => c.fields.withName "AskUserOption"
  | .criterion c => c.fields.withName "SuccessCriterion"
  | .route r => r.fields.withName "OfferNextRoute"
  | .handle h => h.fields.withName "StagedFunction"
  | .foreign name => "<" ++ name ++ ">"

/-- The literal texts of the items of a sequence. -/
def literals : List Value → List String
  | [] => []
  | item :: rest => literal item :: literals rest

/-- The literal texts of the entries of a mapping. -/
def entryLiterals : List (Value × Value) → List String
  | [] => []
  | (key, value) :: rest => (literal key ++ ": " ++ literal value) :: entryLiterals rest

/-- The literal texts of the props of an element. -/
def propLiterals : List (String × Value) → List String
  | [] => []
  | (name, value) :: rest => (Text.quoted name ++ ": " ++ literal value) :: propLiterals rest
end

/-- The text of a value that stands alone. -/
def display : Value → String
  | .text s => s
  | .staged v => v.fields.alone
  | .condition c => c.fields.alone
  | .member m => m.display
  | .choice c => c.fields.alone
  | .criterion c => c.fields.alone
  | .route r => r.fields.alone
  | value => value.literal

end Value

end Runbook
