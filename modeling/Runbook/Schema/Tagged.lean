import Runbook.Schema.Record

/-!
# Reading the kind of a node

A node is read from a mapping whose `kind` says what it is. The name of the kind is a part of the
place of every fault below it.
-/

namespace Runbook

/-- Why a value that is no mapping is no node: scalars and sequences have no fields, and of the rest
only conditions have a kind. -/
def Value.kindProblem (kinds : List String) : Value → Problem
  | .condition c => .unknownKind c.form.name kinds
  | .staged _ | .element .. | .choice _ | .criterion _ | .route _ | .handle _ | .foreign _ =>
    .noKind
  | _ => .notNode

def Read.noNode {α : Type} (kinds : List String) (value : Value) : Read α :=
  Read.refuse (value.kindProblem kinds)

namespace Record

/-- The kind that a record names, out of the given ones. -/
def kindIn {α : Type} (record : Record) (all : List α) (name : α → String) : Read α :=
  match record "kind" with
  | none => Read.refuse .noKind
  | some value =>
    match Read.member all name value with
    | .ok kind => .ok kind
    | .error _ => Read.refuse (.unknownKind value.display (all.map name))

end Record

end Runbook
