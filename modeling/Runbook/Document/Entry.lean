import Runbook.Staged.Basic

/-!
# Entries of listing blocks

Some blocks list small records instead of holding other blocks: the options of a question, the
criteria of a checklist and the commands offered next.
-/

namespace Runbook

/-- Text that is known now, or text that is fetched when the runbook is executed. -/
inductive Content where
  | text (value : String)
  | staged (value : Staged)
deriving DecidableEq, Repr, Inhabited

/-- One option of a question. -/
structure Choice where
  value : String
  label : String
  description : Option String := none
deriving DecidableEq, Repr, Inhabited

/-- One line of a checklist. -/
structure Criterion where
  text : Content
  checked : Bool := false
deriving DecidableEq, Repr, Inhabited

/-- A command that may be run next. -/
structure Route where
  name : String
  path : String
  description : Option String := none
deriving DecidableEq, Repr, Inhabited

end Runbook
