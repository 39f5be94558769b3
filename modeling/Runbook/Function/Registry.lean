import Runbook.Function.Relocation
import Runbook.Text.Identifier

/-!
# The registry of staged functions

A build keeps its staged functions in the order of their registration. They share one module in the
end, so their names must not clash with each other, with the names of the lines that they need, and
with the names of the module itself. A closed registry is empty and stays so.
-/

namespace Runbook

/-- The names that the runtime module uses for itself. -/
def runtimeNames : List String := ["REGISTRY", "main", "_asyncio", "_inspect", "_json", "_sys"]

/-- The words that cannot be names in the runtime module. -/
def keywords : List String :=
  ["False", "None", "True", "and", "as", "assert", "async", "await", "break", "class", "continue",
    "def", "del", "elif", "else", "except", "finally", "for", "from", "global", "if", "import",
    "in", "is", "lambda", "nonlocal", "not", "or", "pass", "raise", "return", "try", "while",
    "with", "yield"]

def isFunctionName (name : String) : Bool := Text.isIdentifier name && !keywords.contains name

/-- The names that the lines of a handle bind. -/
def Handle.boundNames (handle : Handle) : List String :=
  (handle.imports ++ handle.constants).map boundName

/-- The staged functions of one build. -/
structure Registry where
  /-- The build that the functions belong to. -/
  owner : String := ""
  functions : List Handle := []
  closed : Bool := false
deriving DecidableEq, Repr, Inhabited

structure Registration where
  name : String
  /-- The declared signature, which replaces the one of the body. -/
  signature : Option Signature := none
  body : Body
deriving Repr, Inhabited

/-- The registration of a body under a name, or else under its own; there is none for a body without
one. -/
def Registration.named? (name : String) (signature : Option Signature) (body : Body) :
    Option Registration :=
  if name.isEmpty then body.name?.map fun own ↦ ⟨own, signature, body⟩
  else some ⟨name, signature, body⟩

namespace Registry

/-- The names of the functions, in the order of their registration. -/
def names (registry : Registry) : List String := registry.functions.map Handle.name

/-- The number of functions. -/
def size (registry : Registry) : Nat := registry.functions.length

def get? (registry : Registry) (name : String) : Option Handle :=
  registry.functions.find? (·.name == name)

/-- The registry holds a function with the given name. -/
def contains (registry : Registry) (name : String) : Bool := registry.names.contains name

/-- Discards the functions and refuses all further ones. -/
def close (registry : Registry) : Registry := { registry with functions := [], closed := true }

/-- The names that would mean two things if a function called `name` with the given lines came to
those of the registry. -/
def clashes (registry : Registry) (name : String) (lines : List String) : List String :=
  let taken := runtimeNames ++ registry.names ++ [name]
  let needed := (lines.map boundName).filter taken.contains
  let bound := registry.functions.any fun other ↦ other.boundNames.contains name
  Text.sort (Text.distinct (needed ++ if bound then [name] else []))

/-- A name is free: it is a valid one, and neither the module nor another function has it. -/
def checkName (registry : Registry) (name : String) : Except RegistrationError Unit :=
  if !isFunctionName name then .error ⟨name, .badName⟩
  else if runtimeNames.contains name then .error ⟨name, .reserved⟩
  else if registry.contains name then .error ⟨name, .duplicate⟩
  else .ok ()

/-- The signature under which a routine is registered. -/
def checkSignature (name : String) (declared : Option Signature) (routine : Routine) :
    Except RegistrationError Signature :=
  let signature := declared.getD routine.signature
  if !signature.isSingleArgument then .error ⟨name, .badSignature signature⟩
  else if routine.signature.inputs.length ≠ 1 then
    .error ⟨name, .badArity routine.signature.inputs.length⟩
  else .ok signature

def handleFor (registry : Registry) (registration : Registration) :
    Except RegistrationError Handle := do
  let name := registration.name
  if registry.closed then throw ⟨name, .registryClosed⟩
  registry.checkName name
  match registration.body with
  | .other _ => throw ⟨name, .notCallable⟩
  | .callable routine =>
    let signature ← checkSignature name registration.signature routine
    let source ← registration.body.relocate name
    let needed ← registration.body.dependencies name
    let clashing := registry.clashes name needed.lines
    if clashing.isEmpty then
      return ⟨some registry.owner, name, signature, source, routine.isAsync, needed.imports,
        needed.constants⟩
    else throw ⟨name, .nameClash clashing⟩

def register (registry : Registry) (registration : Registration) :
    Except RegistrationError (Handle × Registry) := do
  let handle ← registry.handleFor registration
  return (handle, { registry with functions := registry.functions ++ [handle] })

/-- The handle is one that this registry gave out and still holds. -/
def holds (registry : Registry) (handle : Handle) : Bool :=
  registry.get? handle.name == some handle

end Registry

end Runbook
