/-!
# Tables of character ranges

A property of characters beyond ASCII is a sorted list of inclusive code point ranges. ASCII is
never looked up here: each property states its ASCII part as a rule of its own, so that a closed
statement about ASCII text is settled without walking a table.
-/

namespace Runbook.Text

/-- The code point of `c` lies in one of the inclusive ranges of `table`. -/
def inRanges (table : List (Nat × Nat)) (c : Char) : Bool :=
  table.any fun range ↦ range.1 ≤ c.toNat && c.toNat ≤ range.2

/-- The code point of `c` is below the first one that the tables cover. -/
def isAscii (c : Char) : Bool := c.toNat < 0x80

theorem inRanges_iff (table : List (Nat × Nat)) (c : Char) :
    inRanges table c = true ↔ ∃ range ∈ table, range.1 ≤ c.toNat ∧ c.toNat ≤ range.2 := by
  simp [inRanges]

end Runbook.Text
