import Runbook.Function.Annotation
import Runbook.Value.Basic

/-!
# Routines

What an author hands over to be staged is usually a function; all that matters here are facts about
it. Its signature, its source and the names that it uses tell whether it can be moved to the runtime
module.
-/

namespace Runbook

/-! ## Parameters -/

/-- How an argument reaches a parameter. -/
inductive ParameterKind where
  | positional
  | positionalOnly
  /-- Takes all further positional arguments. -/
  | variadic
  | keywordOnly
  /-- Takes all further keyword arguments. -/
  | variadicKeyword
deriving DecidableEq, Repr, Inhabited

/-- A parameter. A default is kept as its source text. -/
structure Parameter where
  name : String
  kind : ParameterKind := .positional
  annotation : Annotation := .missing
  default : Option String := none
deriving DecidableEq, Repr, Inhabited

/-- The shapes that a parameter adds to a signature. What cannot be given as one positional argument
counts as an input without a shape, and an optional keyword as none at all. -/
def Parameter.inputs (parameter : Parameter) : List Shape :=
  match parameter.kind with
  | .variadic | .variadicKeyword => [.none]
  | .keywordOnly => if parameter.default.isSome then [] else [.none]
  | .positional | .positionalOnly => [parameter.annotation.shape]

/-! ## Names -/

/-- The names that code uses, with those of the code nested in it. -/
inductive CodeNames where
  | node (names : List String) (nested : List CodeNames)
deriving Repr, Inhabited

namespace CodeNames

mutual
/-- All names, those of nested code included. -/
def all : CodeNames → List String
  | .node names nested => names ++ allOf nested

/-- All names of several pieces of code. -/
def allOf : List CodeNames → List String
  | [] => []
  | code :: rest => all code ++ allOf rest
end

end CodeNames

/-- What a name at the top of a module stands for. -/
inductive Global where
  | module (name : String)
  | value (value : Value)
  /-- A staged function, which is called by name. -/
  | staged
  /-- Something that was defined in a module under a name. -/
  | object (module name : Option String)
deriving Repr, Inhabited

/-- The code of a routine: the names that it uses, what they stand for, and its own module. -/
structure Code where
  names : CodeNames
  globals : List (String × Global) := []
  home : Option String := none
deriving Repr, Inhabited

/-! ## Routines -/

inductive RoutineSource where
  | unavailable (reason : String)
  /-- The source holds no definition of a function. -/
  | withoutDefinition
  /-- The lines of the body of a definition. -/
  | definition (lines : List String)
deriving DecidableEq, Repr, Inhabited

/-- Facts about something that can be called. -/
structure Routine where
  /-- The name under which it was defined. -/
  name : Option String
  parameters : List Parameter
  returns : Annotation := .missing
  isAsync : Bool := false
  /-- Variables of a surrounding function that it uses. -/
  free : List String := []
  source : RoutineSource
  code : Option Code := none
deriving Repr, Inhabited

/-- What is handed over to be staged: a routine, or something that cannot be called. -/
inductive Body where
  | callable (routine : Routine)
  | other (typeName : String)
deriving Repr, Inhabited

/-- The name of a function without a name. -/
def lambdaName : String := "<lambda>"

/-- Why something of the given type has no source. -/
def sourcelessReason (typeName : String) : String :=
  "module, class, method, function, traceback, frame, or code object was expected, got " ++ typeName

def Routine.signature (routine : Routine) : Signature :=
  ⟨routine.parameters.flatMap Parameter.inputs, routine.returns.shape⟩

/-- The name under which a body was defined. -/
def Body.name? : Body → Option String
  | .callable routine => routine.name
  | .other _ => none

end Runbook
