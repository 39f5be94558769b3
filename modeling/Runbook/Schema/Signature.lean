import Runbook.Function.Handle
import Runbook.Schema.Record

/-!
# Signatures from data

A signature may be declared instead of being taken from a function.
-/

namespace Runbook

def Shape.read : Value → Read Shape := Read.member Shape.all Shape.name

namespace Signature

def readInputs (value : Value) : Read (List Shape) :=
  match value.sequence? with
  | some items => Read.each Shape.read 0 items
  | none => Read.refuse .notTuple

def ofRecord (record : Record) : Read Signature := do
  let inputs ← record.required "inputs" readInputs
  let output ← record.required "output" Shape.read
  return ⟨inputs, output⟩

end Signature

end Runbook
