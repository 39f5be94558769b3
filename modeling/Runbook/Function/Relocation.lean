import Runbook.Function.Routine
import Runbook.Text.Escape
import Runbook.Text.Sort
import Runbook.Value.Literal

/-!
# Relocation

A staged function moves to the top of the runtime module. Its definition is written anew there
without annotations, and the names that it uses from its own module move with it: modules and
objects of other modules are imported, and literal values are written out. What was defined next to
it cannot follow.
-/

namespace Runbook

/-! ## Errors -/

/-- Why a function cannot be registered. -/
inductive RegistrationProblem where
  /-- The registry belongs to a finished build. -/
  | registryClosed
  /-- The build itself is finished. -/
  | contextClosed
  | badName
  | reserved
  | duplicate
  | notCallable
  /-- The signature is not one structured argument and one result. -/
  | badSignature (signature : Signature)
  | badArity (count : Nat)
  | anonymous
  | closesOver (names : List String)
  | sourceUnavailable (reason : String)
  | noDefinition
  | notRelocatable (name : String)
  | nameClash (names : List String)
deriving DecidableEq, Repr, Inhabited

namespace RegistrationProblem

def message : RegistrationProblem → String
  | .registryClosed => "registry belongs to a finished build"
  | .contextClosed => "build context already closed"
  | .badName => "name must be a valid identifier"
  | .reserved => "name is reserved by the runtime module"
  | .duplicate => "already registered in this build"
  | .notCallable => "body is not callable"
  | .badSignature signature =>
    "expected one structured argument and one result, got (" ++
      Text.join ", " (signature.inputs.map Shape.name) ++ ") -> " ++ signature.output.name
  | .badArity count => "body takes " ++ toString count ++ " arguments, expected 1"
  | .anonymous => "lambdas cannot be relocated; use a def"
  | .closesOver names => "function closes over " ++ Text.join ", " names
  | .sourceUnavailable reason => "source unavailable: " ++ reason
  | .noDefinition => "no function definition found in source"
  | .notRelocatable name => "references " ++ name ++ ", which cannot be relocated with it"
  | .nameClash names =>
    "module-level name clash in the runtime module: " ++ Text.join ", " names

end RegistrationProblem

/-- A problem with the function that was to get the given name. -/
structure RegistrationError where
  name : String
  problem : RegistrationProblem
deriving DecidableEq, Repr, Inhabited

def registrationText (name message : String) : String := name ++ ": " ++ message

/-- The name and what is wrong with it. -/
def RegistrationError.text (error : RegistrationError) : String :=
  registrationText error.name error.problem.message

/-! ## Definitions -/

namespace Parameter

/-- A parameter as it is written in a definition. -/
def text (parameter : Parameter) : String :=
  match parameter.kind with
  | .variadic => "*" ++ parameter.name
  | .variadicKeyword => "**" ++ parameter.name
  | _ => parameter.name ++ (parameter.default.elim "" fun source ↦ "=" ++ source)

/-- The texts of parameters with the marks between them: a slash after those that are positional
only, and a star before the first keyword, unless a variadic parameter came before. -/
def texts (starred : Bool) : List Parameter → List String
  | [] => []
  | parameter :: rest =>
    let star := parameter.kind == .keywordOnly && !starred
    let slash := parameter.kind == .positionalOnly &&
      !rest.head?.any fun next ↦ next.kind == .positionalOnly
    (if star then ["*"] else []) ++ parameter.text :: (if slash then ["/"] else []) ++
      texts (starred || star || parameter.kind == .variadic) rest

end Parameter

/-- How far the body of a definition is indented. -/
def bodyIndent : String := Text.spaces 4

def bodyLine (line : String) : String := if line.isEmpty then line else bodyIndent ++ line

/-- A definition of a function called `name`. -/
def Routine.definitionText (routine : Routine) (name : String) (lines : List String) : String :=
  Text.join "\n"
    (((if routine.isAsync then "async def " else "def ") ++ name ++ "(" ++
      Text.join ", " (Parameter.texts false routine.parameters) ++ "):") :: lines.map bodyLine)

/-- The source of a body as a function called `name`. -/
def Body.relocate (name : String) : Body → Except RegistrationError String
  | .other typeName => .error ⟨name, .sourceUnavailable (sourcelessReason typeName)⟩
  | .callable routine =>
    if routine.name = some lambdaName then .error ⟨name, .anonymous⟩
    else if !routine.free.isEmpty then .error ⟨name, .closesOver routine.free⟩
    else match routine.source with
      | .unavailable reason => .error ⟨name, .sourceUnavailable reason⟩
      | .withoutDefinition => .error ⟨name, .noDefinition⟩
      | .definition lines => .ok (routine.definitionText name lines)

/-! ## Dependencies -/

namespace Value

/-- How deep brackets can be nested in literal text that is read back. -/
def maxNesting : Nat := 200

mutual
/-- The literal text of the value can be read back: it holds only finite scalars, sequences and
mappings, and at most `room` brackets around each of them. -/
def isLiteralWithin (room : Nat) : Value → Bool
  | .null | .bool _ | .int _ | .text _ => true
  | .float x => x.isFinite
  | .list items => 0 < room && areLiteralsWithin (room - 1) items
  | .tuple items => 0 < room && areLiteralsWithin (room - 1) items
  | .mapping entries => 0 < room && areLiteralEntriesWithin (room - 1) entries
  | _ => false

/-- The literal texts of all items can be read back. -/
def areLiteralsWithin (room : Nat) : List Value → Bool
  | [] => true
  | item :: rest => isLiteralWithin room item && areLiteralsWithin room rest

/-- The literal texts of all entries can be read back. -/
def areLiteralEntriesWithin (room : Nat) : List (Value × Value) → Bool
  | [] => true
  | (key, value) :: rest =>
    isLiteralWithin room key && isLiteralWithin room value && areLiteralEntriesWithin room rest
end

/-- The literal text of the value can be read back. -/
def isLiteral (value : Value) : Bool := value.isLiteralWithin maxNesting

end Value

/-- A line that a function needs at the top of the runtime module. -/
inductive Dependency where
  | importLine (text : String)
  | constantLine (text : String)
deriving DecidableEq, Repr, Inhabited

/-- The lines that a function needs: imports and constants. -/
structure Dependencies where
  imports : List String := []
  constants : List String := []
deriving DecidableEq, Repr, Inhabited

namespace Dependencies

def lines (dependencies : Dependencies) : List String :=
  dependencies.imports ++ dependencies.constants

/-- The lines with one more in front. -/
def add (dependency : Option Dependency) (dependencies : Dependencies) : Dependencies :=
  match dependency with
  | none => dependencies
  | some (.importLine text) => { dependencies with imports := text :: dependencies.imports }
  | some (.constantLine text) => { dependencies with constants := text :: dependencies.constants }

end Dependencies

/-- The line that makes `name` stand for a global, if one is needed. -/
def Global.dependency (owner : String) (home : Option String) (name : String) :
    Global → Except RegistrationError (Option Dependency)
  | .module real =>
    .ok (some (.importLine ("import " ++ real ++ if real = name then "" else " as " ++ name)))
  | .value held =>
    if held.isLiteral then .ok (some (.constantLine (name ++ " = " ++ held.literal)))
    else .error ⟨owner, .notRelocatable name⟩
  | .staged => .ok none
  | .object (some origin) (some real) =>
    if home = some origin then .error ⟨owner, .notRelocatable name⟩
    else
      .ok (some (.importLine ("from " ++ origin ++ " import " ++ real ++
        if real = name then "" else " as " ++ name)))
  | .object _ _ => .error ⟨owner, .notRelocatable name⟩

namespace Code

/-- The names that code uses, each once, in ascending order. -/
def references (code : Code) : List String := Text.sort (Text.distinct code.names.all)

/-- The lines that the given names need. -/
def dependenciesOf (owner : String) (code : Code) :
    List String → Except RegistrationError Dependencies
  | [] => .ok {}
  | name :: rest =>
    match code.globals.lookup name with
    | none => dependenciesOf owner code rest
    | some found => do
      let dependency ← found.dependency owner code.home name
      let others ← dependenciesOf owner code rest
      return others.add dependency

end Code

/-- The lines that a body needs at the top of the runtime module. -/
def Body.dependencies (name : String) : Body → Except RegistrationError Dependencies
  | .other _ => .ok {}
  | .callable routine =>
    match routine.code with
    | none => .ok {}
    | some code => code.dependenciesOf name code.references

/-- The name that an import or a constant line binds. -/
def boundName (line : String) : String :=
  if Text.startsWith "import " line || Text.startsWith "from " line then
    let target :=
      if (Text.splitFirst? " as ".toList line.toList).isSome then Text.afterLast " as " line
      else Text.afterLast " " line
    Text.beforeFirst "." target
  else Text.trim (Text.beforeFirst "=" line)

end Runbook
