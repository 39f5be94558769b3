/-!
# Handles of staged functions

A staged function exchanges one JSON value in each direction, so its signature lists only the
shapes of those values. A handle is what registration returns: everything the runtime module needs,
and the build that owns it.
-/

namespace Runbook

/-- The JSON shape of an argument or a result. -/
inductive Shape where
  | object | array | string | number | boolean | any | none
deriving DecidableEq, Repr, Inhabited

namespace Shape

def all : List Shape := [.object, .array, .string, .number, .boolean, .any, .none]

def name : Shape → String
  | .object => "object"
  | .array => "array"
  | .string => "string"
  | .number => "number"
  | .boolean => "boolean"
  | .any => "any"
  | .none => "none"

def ofName? (text : String) : Option Shape := all.find? (·.name == text)

/-- Shapes that the single argument of a staged function may have. -/
def isStructured : Shape → Bool
  | .object | .array | .any => true
  | _ => false

end Shape

/-- The shapes of the arguments and of the result of a function. -/
structure Signature where
  inputs : List Shape
  output : Shape
deriving DecidableEq, Repr, Inhabited

namespace Signature

/-- One structured argument goes in and one value comes out. -/
def isSingleArgument (signature : Signature) : Bool :=
  match signature.inputs with
  | [input] => input.isStructured && signature.output != .none
  | _ => false

end Signature

/-- A registered function. Within one build a name is registered at most once, so the owner and the
name tell which function it is; a handle without an owner belongs to no build. -/
structure Handle where
  owner : Option String
  name : String
  signature : Signature
  source : String
  isAsync : Bool := false
  imports : List String := []
  constants : List String := []
deriving DecidableEq, Repr, Inhabited

end Runbook
