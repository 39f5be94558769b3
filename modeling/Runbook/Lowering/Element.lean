import Runbook.Value.Key

/-!
# Elements

An element has a name, props and children. A front end makes elements with `Value.makeElement`,
which flattens children that are sequences by one level.
-/

namespace Runbook

/-- The first prop that is there among several spellings of its name. -/
def prop? (props : List (String × Value)) : List String → Option Value
  | [] => none
  | name :: others =>
    match props.lookup name with
    | some value => some value
    | none => prop? props others

/-- Children with those that are sequences replaced by their items. -/
def flattenChildren (children : List Value) : List Value :=
  children.flatMap fun child ↦ child.items?.getD [child]

/-- The element that a front end makes. -/
def Value.makeElement (name : String) (props : List (String × Value)) (children : List Value) :
    Value :=
  .element name (setNames props) (flattenChildren children)

end Runbook
