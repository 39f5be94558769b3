import Runbook.Value.Key

/-!
# Values as sequences

Where a sequence is wanted, a record does as well: it is the sequence of its fields, as pairs of
name and value. Where anything that can be listed will do, a mapping lists its keys and a text its
characters.
-/

namespace Runbook

namespace Condition

def fieldValues (condition : Condition) : List (String × Value) :=
  ("kind", .text condition.form.name) :: match condition with
    | .ref value => [("value", .staged value)]
    | .literal value => [("value", .bool value)]
    | .not operand => [("operand", .condition operand)]
    | .all operands | .any operands => [("operands", .list (operands.map .condition))]
    | .compare op left right =>
      [("op", .member op.member), ("left", .staged left), ("right", .ofOperand right)]
    | .shellTest test => [("test", .text test)]

end Condition

namespace Value

def recordFields? : Value → Option (List (String × Value))
  | .staged v => some [("root", .text v.root), ("path", .tuple (v.path.map ofSegment))]
  | .condition c => some c.fieldValues
  | .choice c =>
    some [("value", .text c.value), ("label", .text c.label),
      ("description", ofText? c.description)]
  | .criterion c => some [("text", ofContent c.text), ("checked", .bool c.checked)]
  | .route r =>
    some [("name", .text r.name), ("path", .text r.path), ("description", ofText? r.description)]
  | _ => none

/-- The items of a list or tuple, or the fields of a record. -/
def sequence? : Value → Option (List Value)
  | .list items | .tuple items => some items
  | value => value.recordFields?.map (·.map fun (name, held) ↦ .tuple [.text name, held])

def characters (s : String) : List Value := s.toList.map fun c ↦ .text (String.singleton c)

/-- What a value lists, if it lists anything. -/
def elements? : Value → Option (List Value)
  | .mapping entries => some (entries.map Prod.fst)
  | .text s => some (characters s)
  | .member m => some (characters m.text)
  | value => value.sequence?

/-- Why a value is no mapping. -/
inductive PairError where
  /-- It lists nothing, or something in it does not, or a key cannot be one. -/
  | notPairs
  /-- Something in it does not list two values. -/
  | badLength
deriving DecidableEq, Repr, Inhabited

def pairsOf : List Value → Except PairError (List (Value × Value))
  | [] => .ok []
  | item :: rest =>
    match item.elements? with
    | none => .error .notPairs
    | some [key, value] =>
      if key.isKey then do return (key, value) :: (← pairsOf rest) else .error .notPairs
    | some _ => .error .badLength

/-- The entries of a mapping, or of a sequence of pairs. -/
def pairs (value : Value) : Except PairError (List (Value × Value)) :=
  match value with
  | .mapping entries => .ok entries
  | other =>
    match other.elements? with
    | none => .error .notPairs
    | some items => pairsOf items

/-- Sets keys one after the other. -/
def setKeys (entries more : List (Value × Value)) : List (Value × Value) :=
  more.foldl (fun set entry ↦ setKey entry.1 entry.2 set) entries

end Value

end Runbook
