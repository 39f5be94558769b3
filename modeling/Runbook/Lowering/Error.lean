import Runbook.Document.Walk
import Runbook.Schema.Fault
import Runbook.Value.Sequence

/-!
# Errors of lowering

Most errors point at an element of the tree by its path and its name. A few come from data that
cannot even be looked into, and have no place.
-/

namespace Runbook

/-- What is wrong with an element. -/
inductive LowerProblem where
  /-- There is no such element. -/
  | unknownElement
  | blockInsideInline
  | invalid (fault : Fault)
  | missingProp (name : String)
  | notText
  | unsupportedChild (typeName : String)
  | notListItem
  | notMarkdown
  | notCriterion
  | notRoute
  | notChoice
  | notAssignment
  | assignmentSource
  | notRegistered (name : String)
  | notFunction (typeName : String)
deriving Repr, Inhabited

def LowerProblem.message : LowerProblem → String
  | .unknownElement => "no IR counterpart"
  | .blockInsideInline => "block element inside inline content"
  | .invalid fault => fault.text
  | .missingProp name => "missing required prop '" ++ name ++ "'"
  | .notText => "expected text content only"
  | .unsupportedChild typeName => "unsupported child of type " ++ typeName
  | .notListItem => "list children must be <li>"
  | .notMarkdown => "markdown content must be a string"
  | .notCriterion => "criteria must be text or mappings with text"
  | .notRoute => "routes must be mappings with name and path"
  | .notChoice => "options must be mappings with value and label"
  | .notAssignment => "assign group children must be <Assign>"
  | .assignmentSource => "exactly one of 'bash', 'value' or 'env' is required"
  | .notRegistered name => name ++ " is not registered in this build"
  | .notFunction typeName => "fn must be a staged function or its name, got " ++ typeName

/-- A message with the element and the place that it is about. -/
def loweringText (message place : String) (element : Option String) : String :=
  "<" ++ element.getD "None" ++ "> at " ++ place ++ ": " ++ message

/-- Why a tree cannot be lowered. -/
inductive LowerError where
  | located (path : TreePath) (element : Option String) (problem : LowerProblem)
  /-- The root is no element. -/
  | notElement
  /-- A prop that should be listed lists nothing. -/
  | notListed
  /-- Frontmatter is no mapping and no sequence of pairs. -/
  | notMapping (error : Value.PairError)
  /-- A prop that should be a text is none. -/
  | notTextProp
  /-- The fields of an entry are not named by texts. -/
  | badFieldNames
deriving Repr, Inhabited

end Runbook
