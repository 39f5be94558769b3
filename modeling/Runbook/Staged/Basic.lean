import Runbook.Staged.PathKey

/-!
# Staged values

A staged value stands for data that exists only when a runbook is executed: an external variable
that will hold JSON, and a path into that JSON. It never holds the data itself, so two staged values
with the same root and path are the same value.
-/

namespace Runbook

/-- One step into JSON data: a property or a position. -/
inductive Segment where
  | key (name : PathKey)
  | index (position : Int)
deriving DecidableEq, Repr, Inhabited

/-- A reference to the data at `path` below the external variable `root`. -/
structure Staged where
  root : String
  path : List Segment := []
deriving DecidableEq, Repr, Inhabited

namespace Staged

/-- No step has been taken: the value is the whole variable. -/
def isRoot (value : Staged) : Bool := value.path.isEmpty

/-- The value one step below `value`. -/
def project (value : Staged) (segment : Segment) : Staged :=
  { value with path := value.path ++ [segment] }

/-- The step in the dotted form of diagnostics. -/
def describeSegment : Segment → String
  | .index position => "[" ++ toString position ++ "]"
  | .key name => "." ++ name.shown

/-- The dotted form for diagnostics, such as `CTX.items[0].name`. -/
def describe (value : Staged) : String :=
  value.path.foldl (fun text segment ↦ text ++ describeSegment segment) value.root

end Staged

end Runbook
