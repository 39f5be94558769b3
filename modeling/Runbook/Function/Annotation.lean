import Runbook.Function.Handle
import Runbook.Text.Blank
import Runbook.Text.Search

/-!
# Annotations

The annotation of a parameter or a result is a text, or a type of which is known what it is called
and which basic types it extends. Either way it tells the JSON shape of the values.
-/

namespace Runbook

/-- Basic types that another type may extend. -/
inductive BasicType where
  /-- A type with declared fields. -/
  | model
  /-- A mapping with declared keys. -/
  | typedDict
  | bool | dict | list | tuple | str | int | float
deriving DecidableEq, Repr, Inhabited

/-- What is known about a type: its name, and the basic types that it is or extends. -/
structure TypeInfo where
  name : String
  bases : List BasicType := []
deriving DecidableEq, Repr, Inhabited

inductive Annotation where
  | missing
  /-- Any value at all. -/
  | anything
  /-- No value. -/
  | nothing
  | text (value : String)
  | type (info : TypeInfo)
deriving DecidableEq, Repr, Inhabited

def namedShapes : List (String × Shape) :=
  [("dict", .object), ("Dict", .object), ("Mapping", .object), ("list", .array), ("List", .array),
    ("tuple", .array), ("Sequence", .array), ("str", .string), ("int", .number), ("float", .number),
    ("bool", .boolean), ("None", .none), ("NoneType", .none), ("Any", .any)]

/-- The shape of a type that is known by name only. -/
def shapeOfName (name : String) : Shape := (namedShapes.lookup name).getD .any

/-- The name of the type that a text annotates: without its arguments and its module. -/
def annotatedName (text : String) : String :=
  Text.afterLast "." (Text.trim (Text.beforeFirst "[" text))

/-- The basic types in the order in which they decide the shape. -/
def basicShapes : List (BasicType × Shape) :=
  [(.model, .object), (.typedDict, .object), (.bool, .boolean), (.dict, .object), (.list, .array),
    (.tuple, .array), (.str, .string), (.int, .number), (.float, .number)]

def TypeInfo.shape (info : TypeInfo) : Shape :=
  match basicShapes.find? fun entry ↦ info.bases.contains entry.1 with
  | some entry => entry.2
  | none => shapeOfName info.name

def Annotation.shape : Annotation → Shape
  | .missing => .any
  | .anything => .any
  | .nothing => .none
  | .text value => shapeOfName (annotatedName value)
  | .type info => info.shape

end Runbook
