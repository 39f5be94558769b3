import Runbook.Document.Frontmatter
import Runbook.Text.Escape

/-!
# Faults of untyped data

Reading a node from untyped data stops at the first fault. A fault says where the data is wrong, by
field names and positions, and how.
-/

namespace Runbook

/-- How data does not fit its field. -/
inductive Problem where
  | missing
  | notText
  | shortText (least : Nat)
  | notBool
  | unreadableBool
  | notInt
  | fractionalInt
  | unreadableInt
  | infiniteInt
  | oversizedInt
  | below (least : Nat)
  | above (most : Nat)
  /-- The text is none of the names of an enumeration. -/
  | notMember (names : List String)
  | notList
  | shortList (least actual : Nat)
  | notTuple
  | notMapping
  /-- The data is no record of the named type. -/
  | notRecord (typeName : String)
  /-- The data has no fields, so it cannot have a kind. -/
  | notNode
  | noKind
  | unknownKind (kind : String) (kinds : List String)
  | badTagName (name : String)
  | badEnvironmentName (content : String)
  | blankCommand
  | notPlain (fault : DatumFault)
deriving Repr, Inhabited

/-- Alternatives in quotes, the last one after `or`. -/
def alternatives : List String → String
  | [] => ""
  | [name] => "'" ++ name ++ "'"
  | [first, last] => "'" ++ first ++ "' or '" ++ last ++ "'"
  | name :: rest => "'" ++ name ++ "', " ++ alternatives rest

namespace Problem

def message : Problem → String
  | .missing => "Field required"
  | .notText => "Input should be a valid string"
  | .shortText least =>
    "String should have at least " ++ toString least ++
      (if least = 1 then " character" else " characters")
  | .notBool => "Input should be a valid boolean"
  | .unreadableBool => "Input should be a valid boolean, unable to interpret input"
  | .notInt => "Input should be a valid integer"
  | .fractionalInt => "Input should be a valid integer, got a number with a fractional part"
  | .unreadableInt => "Input should be a valid integer, unable to parse string as an integer"
  | .infiniteInt => "Input should be a finite number"
  | .oversizedInt => "Unable to parse input string as an integer, exceeded maximum size"
  | .below least => "Input should be greater than or equal to " ++ toString least
  | .above most => "Input should be less than or equal to " ++ toString most
  | .notMember names => "Input should be " ++ alternatives names
  | .notList => "Input should be a valid list"
  | .shortList least actual =>
    "List should have at least " ++ toString least ++ (if least = 1 then " item" else " items") ++
      " after validation, not " ++ toString actual
  | .notTuple => "Input should be a valid tuple"
  | .notMapping => "Input should be a valid dictionary"
  | .notRecord typeName => "Input should be a valid dictionary or instance of " ++ typeName
  | .notNode => "Input should be a valid dictionary or object to extract fields from"
  | .noKind => "Unable to extract tag using discriminator 'kind'"
  | .unknownKind kind kinds =>
    "Input tag '" ++ kind ++ "' found using 'kind' does not match any of the expected tags: " ++
      Text.join ", " (kinds.map fun name ↦ "'" ++ name ++ "'")
  | .badTagName name => "Value error, invalid tag name: " ++ Text.quoted name
  | .badEnvironmentName content =>
    "Value error, env assignment needs a variable name, got " ++ Text.quoted content
  | .blankCommand => "Value error, bash assignment needs a command"
  | .notPlain fault => "Value error, " ++ fault.message

end Problem

/-- A problem and the place of the data that has it. -/
structure Fault where
  place : List String := []
  problem : Problem
deriving Repr, Inhabited

namespace Fault

def placeText (fault : Fault) : String := Text.join "." fault.place

/-- The place and what is wrong there. -/
def text (fault : Fault) : String := fault.placeText ++ ": " ++ fault.problem.message

end Fault

/-- The outcome of reading untyped data. -/
abbrev Read (α : Type) := Except Fault α

namespace Read

def refuse {α : Type} (problem : Problem) : Read α := .error ⟨[], problem⟩

/-- Reads data that stands below the given part of a place. -/
def below {α : Type} (part : String) (read : Read α) : Read α :=
  match read with
  | .ok value => .ok value
  | .error fault => .error { fault with place := part :: fault.place }

end Read

end Runbook
