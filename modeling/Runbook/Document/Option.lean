/-!
# Options of blocks

The closed choices that a block's fields offer: alignments, statuses, layouts of a step, and the
sources of an assignment.
-/

namespace Runbook

inductive Alignment where
  | left | center | right
deriving DecidableEq, Repr, Inhabited

namespace Alignment

def all : List Alignment := [.left, .center, .right]

def name : Alignment → String
  | .left => "left"
  | .center => "center"
  | .right => "right"

end Alignment

/-- How an agent or a command ends. -/
inductive Status where
  | success | blocked | notFound | error | checkpoint
deriving DecidableEq, Repr, Inhabited

namespace Status

def all : List Status := [.success, .blocked, .notFound, .error, .checkpoint]

def name : Status → String
  | .success => "SUCCESS"
  | .blocked => "BLOCKED"
  | .notFound => "NOT_FOUND"
  | .error => "ERROR"
  | .checkpoint => "CHECKPOINT"

end Status

inductive StepLayout where
  | heading | bold | xml
deriving DecidableEq, Repr, Inhabited

namespace StepLayout

def all : List StepLayout := [.heading, .bold, .xml]

def name : StepLayout → String
  | .heading => "heading"
  | .bold => "bold"
  | .xml => "xml"

end StepLayout

/-- Where an assigned variable gets its value. -/
inductive AssignSource where
  /-- The output of a command. -/
  | bash
  /-- A literal. -/
  | value
  /-- An environment variable. -/
  | env
deriving DecidableEq, Repr, Inhabited

namespace AssignSource

def all : List AssignSource := [.bash, .value, .env]

def name : AssignSource → String
  | .bash => "bash"
  | .value => "value"
  | .env => "env"

end AssignSource

end Runbook
