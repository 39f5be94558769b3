import Mathlib.Algebra.Order.BigOperators.Group.List
import Mathlib.Algebra.Order.Ring.Nat
import Runbook.Proofs.Fences
import Runbook.Proofs.Yields

/-!
# Tables

A table has one line for each row. In the line, the pipes that do not follow a backslash are those
at its ends and between its cells, so there is one more of them than there are cells. A bare pipe or
a line feed in a cell would break this. The text of a cell is escaped and holds neither
(`staysInCell_escapeCell`), but the filler of rows that are too short is written as it is. So a
table with short rows is a grid just if its filler stays in a cell.
-/

namespace Runbook

namespace Text

theorem splitLines_joinChars_eq {parts : List (List Char)} (hparts : parts ≠ []) :
    splitLines (joinChars ['\n'] parts) = parts.flatMap splitLines := by
  induction parts with
  | nil => exact absurd rfl hparts
  | cons part rest ih =>
    cases rest with
    | nil => rw [joinChars, List.flatMap_singleton]
    | cons next more =>
      rw [joinChars, List.append_assoc, List.singleton_append, splitLines_append_feed,
        ih (List.cons_ne_nil _ _), ← List.flatMap_cons]

/-- The lines of joined texts are those of the one text after those of the other. -/
theorem lines_join_eq {parts : List String} (hparts : parts ≠ []) :
    lines (join "\n" parts) = parts.flatMap lines := by
  rw [lines, join, String.toList_ofList]
  change (splitLines (joinChars ['\n'] _)).map _ = _
  rw [splitLines_joinChars_eq (by simpa using hparts), List.flatMap_map, List.map_flatMap]
  rfl

private theorem length_lines_pos (text : String) : 0 < (lines text).length := by
  rw [lines, List.length_map]
  exact List.length_pos_iff.mpr (splitLines_ne_nil _)

private theorem notMem_of_length_lines {text : String} (h : (lines text).length = 1) :
    '\n' ∉ text.toList := by
  intro hmem
  obtain ⟨front, back, heq⟩ := List.append_of_mem hmem
  rw [lines, List.length_map, heq, splitLines_append_feed, List.length_append] at h
  have hfront := List.length_pos_iff.mpr (splitLines_ne_nil front)
  have hback := List.length_pos_iff.mpr (splitLines_ne_nil back)
  omega

private theorem length_le_flatMap_lines (parts : List String) :
    parts.length ≤ (parts.flatMap lines).length := by
  induction parts with
  | nil => exact Nat.le_refl _
  | cons part rest ih =>
    have hpart := length_lines_pos part
    rw [List.flatMap_cons, List.length_append, List.length_cons]
    omega

/-- If joined texts have no more lines than there are texts, none of them holds a line feed. -/
theorem notMem_of_length_flatMap_lines {parts : List String}
    (h : (parts.flatMap lines).length ≤ parts.length) : ∀ part ∈ parts, '\n' ∉ part.toList := by
  induction parts with
  | nil => exact List.forall_mem_nil _
  | cons part rest ih =>
    rw [List.flatMap_cons, List.length_append, List.length_cons] at h
    have hpart := length_lines_pos part
    have hrest := length_le_flatMap_lines rest
    rw [List.forall_mem_cons]
    exact ⟨notMem_of_length_lines (by omega), ih (by omega)⟩

end Text

namespace Markdown

/-! ## Pipes -/

/-- How many pipes do not follow a backslash, in characters that stand behind `before`. -/
def barePipes (before : Char) : List Char → Nat
  | [] => 0
  | c :: rest => (if c = '|' ∧ before ≠ '\\' then 1 else 0) + barePipes c rest

/-- A line of a table: it has pipes at both ends, and one more bare pipe than columns. -/
def isPipeLine (width : Nat) (line : String) : Bool :=
  line.toList.head? == some '|' && line.toList.getLast? == some '|' &&
    barePipes '\n' line.toList == width + 1

/-- A text that ends neither its cell nor the line. -/
def staysInCell (text : String) : Bool :=
  !text.toList.contains '\n' && barePipes ' ' text.toList == 0

private theorem staysInCell_iff {text : String} :
    staysInCell text = true ↔ '\n' ∉ text.toList ∧ barePipes ' ' text.toList = 0 := by
  simp [staysInCell]

private theorem barePipes_blank_cons (before : Char) (rest : List Char) :
    barePipes before (' ' :: rest) = barePipes ' ' rest := by
  have hblank : ¬(' ' = '|' ∧ before ≠ '\\') := fun h ↦ absurd h.1 (by decide)
  rw [barePipes, if_neg hblank, Nat.zero_add]

private theorem barePipes_append_blank (before : Char) (front back : List Char) :
    barePipes before (front ++ ' ' :: back) = barePipes before front + barePipes ' ' back := by
  induction front generalizing before with
  | nil => rw [List.nil_append, barePipes_blank_cons, barePipes, Nat.zero_add]
  | cons c rest ih => rw [List.cons_append, barePipes, barePipes, ih, Nat.add_assoc]

private theorem barePipes_cellChars (before : Char) (text : List Char) :
    barePipes before (cellChars text) = 0 := by
  fun_induction cellChars text generalizing before with
  | case1 => rfl
  | case2 rest ih => simp [barePipes, ih]
  | case3 rest _ ih => simp [barePipes, ih]
  | case4 rest _ _ ih => simp [barePipes, ih]
  | case5 c rest _ hpipe _ ih => simp [barePipes, hpipe, ih]

private theorem notMem_cellChars (text : List Char) : '\n' ∉ cellChars text := by
  fun_induction cellChars text with
  | case1 => exact List.not_mem_nil
  | case2 rest ih => simp [ih]
  | case3 rest _ ih => simp [ih]
  | case4 rest _ _ ih => simp [ih]
  | case5 c rest _ _ hfeed ih => simp [ih, Ne.symm hfeed]

/-- An escaped text stays in its cell. -/
theorem staysInCell_escapeCell (text : String) : staysInCell (escapeCell text) = true := by
  rw [staysInCell_iff, escapeCell_eq, String.toList_ofList]
  exact ⟨notMem_cellChars _, barePipes_cellChars _ _⟩

/-! ## Rows -/

/-- The characters of a cell with the pipe behind it. -/
def closedCell (cell : String) : List Char := ' ' :: (cell.toList ++ [' ', '|'])

private theorem toList_pipeRow {cells : List String} (h : cells ≠ []) :
    (pipeRow cells).toList = '|' :: cells.flatMap closedCell := by
  obtain ⟨first, rest, rfl⟩ := List.exists_cons_of_ne_nil h
  have hjoin :
      ' ' :: (Text.joinChars " | ".toList ((first :: rest).map String.toList) ++ [' ', '|']) =
        (first :: rest).flatMap closedCell := by
    clear h
    induction rest generalizing first with
    | nil => simp [Text.joinChars, closedCell]
    | cons next more ih =>
      rw [List.flatMap_cons, ← ih next]
      simp [Text.joinChars, closedCell]
  rw [pipeRow, ← hjoin]
  simp [Text.join]

private theorem barePipes_flatMap_closedCell (before : Char) (cells : List String) :
    barePipes before (cells.flatMap closedCell) =
      cells.length + (cells.map fun cell ↦ barePipes ' ' cell.toList).sum := by
  induction cells generalizing before with
  | nil => rfl
  | cons cell rest ih =>
    have hcell : closedCell cell ++ rest.flatMap closedCell =
        ' ' :: (cell.toList ++ ' ' :: '|' :: rest.flatMap closedCell) := by
      simp [closedCell]
    -- The blank in front of the pipe keeps a backslash at the end of the cell away from it.
    rw [List.flatMap_cons, hcell, barePipes_blank_cons, barePipes_append_blank, barePipes, ih,
      if_pos (by decide), List.length_cons, List.map_cons, List.sum_cons]
    omega

private theorem mem_feed_flatMap_closedCell {cells : List String} :
    '\n' ∈ cells.flatMap closedCell ↔ ∃ cell ∈ cells, '\n' ∈ cell.toList := by
  simp [closedCell]

/-- A row is a line of the table just if all its cells stay in their places. -/
theorem isPipeLine_pipeRow_iff {width : Nat} {cells : List String} (hwidth : 0 < width)
    (hlength : cells.length = width) :
    ('\n' ∉ (pipeRow cells).toList ∧ isPipeLine width (pipeRow cells) = true) ↔
      ∀ cell ∈ cells, staysInCell cell = true := by
  have hcells : cells ≠ [] := List.length_pos_iff.mp (hlength ▸ hwidth)
  have hline : isPipeLine width (pipeRow cells) = true ↔
      (cells.map fun cell ↦ barePipes ' ' cell.toList).sum = 0 := by
    have hfirst : (pipeRow cells).toList.head? = some '|' := by simp [pipeRow]
    have hlast : (pipeRow cells).toList.getLast? = some '|' := by
      simp [pipeRow, List.getLast?_cons]
    rw [isPipeLine, hfirst, hlast, toList_pipeRow hcells, barePipes,
      barePipes_flatMap_closedCell, hlength, if_pos (by decide)]
    simp only [beq_self_eq_true, Bool.and_self, Bool.true_and, beq_iff_eq]
    omega
  have hfeed : '\n' ∉ (pipeRow cells).toList ↔ ∀ cell ∈ cells, '\n' ∉ cell.toList := by
    rw [toList_pipeRow hcells, List.mem_cons, mem_feed_flatMap_closedCell]
    simp
  rw [hline, hfeed, List.sum_eq_zero_iff, List.forall_mem_map, ← forall₂_and]
  simp only [staysInCell_iff]

private theorem length_padTo {α : Type} {width : Nat} (filler : α) {items : List α}
    (h : items.length ≤ width) : (padTo width filler items).length = width := by
  rw [padTo, List.length_append, List.length_replicate]
  omega

private theorem forall_mem_padTo_iff {width : Nat} {filler : String} (texts : List String) :
    (∀ cell ∈ padTo width filler (texts.map escapeCell), staysInCell cell = true) ↔
      (texts.length < width → staysInCell filler = true) := by
  rw [padTo, List.forall_mem_append, List.length_map]
  constructor
  · rintro ⟨-, hfiller⟩ hshort
    exact hfiller filler (List.mem_replicate.mpr ⟨Nat.sub_ne_zero_of_lt hshort, rfl⟩)
  · intro hfiller
    refine ⟨List.forall_mem_map.mpr fun text _ ↦ staysInCell_escapeCell text, fun cell hcell ↦ ?_⟩
    obtain ⟨hmissing, rfl⟩ := List.mem_replicate.mp hcell
    exact hfiller (Nat.lt_of_sub_ne_zero hmissing)

/-- The line is what a row of cells is written as, for some texts of its cells. -/
def IsRowOf (width : Nat) (emptyCell : String) (cells : List Content) (line : String) : Prop :=
  ∃ texts : List String, texts.length = cells.length ∧
    line = pipeRow (padTo width emptyCell (texts.map escapeCell))

private theorem IsRowOf.isPipeLine_iff {width : Nat} {emptyCell line : String}
    {cells : List Content} (h : IsRowOf width emptyCell cells line) (hwidth : 0 < width)
    (hcells : cells.length ≤ width) :
    ('\n' ∉ line.toList ∧ isPipeLine width line = true) ↔
      (cells.length < width → staysInCell emptyCell = true) := by
  obtain ⟨texts, htexts, rfl⟩ := h
  have hlength : (texts.map escapeCell).length ≤ width := by rwa [List.length_map, htexts]
  rw [isPipeLine_pipeRow_iff hwidth (length_padTo _ hlength), forall_mem_padTo_iff, htexts]

private theorem isPipeLine_separatorRow {width : Nat} {align : List Alignment} (hwidth : 0 < width)
    (halign : align.length ≤ width) :
    '\n' ∉ (separatorRow width align).toList ∧
      isPipeLine width (separatorRow width align) = true := by
  have hmark : ∀ mark, staysInCell (separatorMark mark) = true := by
    intro mark
    cases mark with
    | none => decide
    | some alignment => cases alignment <;> decide
  refine (isPipeLine_pipeRow_iff hwidth ?_).mpr (List.forall_mem_map.mpr fun mark _ ↦ hmark mark)
  rw [List.length_map, length_padTo _ (by rwa [List.length_map])]

private theorem length_of_yields_contents {slots : List Content} {texts : List String}
    (h : (contents slots).Yields (.ok texts)) : texts.length = slots.length := by
  induction slots generalizing texts with
  | nil => cases h; rfl
  | cons slot rest ih =>
    rw [contents, Emission.yields_bind_ok] at h
    obtain ⟨first, -, h⟩ := h
    obtain ⟨others, hothers, h⟩ := (Emission.yields_bind_ok _ _ _).mp h
    cases h
    rw [List.length_cons, List.length_cons, ih hothers]

/-- Every row is written on a line of its own. -/
theorem forall₂_of_yields_tableRows {width : Nat} {emptyCell : String} {rows : List (List Content)}
    {lines : List String} (h : (tableRows width emptyCell rows).Yields (.ok lines)) :
    List.Forall₂ (IsRowOf width emptyCell) rows lines := by
  induction rows generalizing lines with
  | nil => cases h; exact .nil
  | cons cells rest ih =>
    rw [tableRows, Emission.yields_bind_ok] at h
    obtain ⟨first, hfirst, h⟩ := h
    obtain ⟨others, hothers, h⟩ := (Emission.yields_bind_ok _ _ _).mp h
    obtain ⟨texts, htexts, hrow⟩ := (Emission.yields_bind_ok _ _ _).mp hfirst
    cases h
    cases hrow
    exact .cons ⟨texts, length_of_yields_contents htexts, rfl⟩ (ih hothers)

end Markdown

/-! ## Tables -/

private theorem le_foldl_max {widths : List Nat} {start n : Nat} (h : n ≤ start ∨ n ∈ widths) :
    n ≤ widths.foldl max start := by
  induction widths generalizing start with
  | nil => exact h.resolve_right List.not_mem_nil
  | cons width rest ih =>
    rw [List.mem_cons] at h
    refine ih ?_
    rcases h with hstart | rfl | hrest
    · exact .inl (hstart.trans (Nat.le_max_left ..))
    · exact .inl (Nat.le_max_right ..)
    · exact .inr hrest

private theorem forall_mem_iff_of_forall₂ {α β : Type} {related : α → β → Prop} {p : α → Prop}
    {q : β → Prop} {firsts : List α} {seconds : List β} (h : List.Forall₂ related firsts seconds)
    (hrelated : ∀ first ∈ firsts, ∀ second, related first second → (q second ↔ p first)) :
    (∀ second ∈ seconds, q second) ↔ ∀ first ∈ firsts, p first := by
  induction h with
  | nil => exact iff_of_true (List.forall_mem_nil _) (List.forall_mem_nil _)
  | cons hhead _ ih =>
    rw [List.forall_mem_cons] at hrelated
    rw [List.forall_mem_cons, List.forall_mem_cons, hrelated.1 _ hhead, ih hrelated.2]

namespace Table

open Markdown

variable {table : Table}

def headerRow (table : Table) : List (List Content) :=
  match table.headers.getD [] with
  | [] => []
  | headers => [headers]

def cellRows (table : Table) : List (List Content) := table.headerRow ++ table.rows

/-- Some row is shorter than the table is wide. -/
def isPadded (table : Table) : Bool :=
  table.cellRows.any fun cells ↦ decide (cells.length < table.columnCount)

/-- The text is a grid: it has a line for the headers if there are any, the line below them and one
line for each row, and all of them have the pipes of a line. -/
def isGrid (table : Table) (text : String) : Bool :=
  (Text.lines text).length == table.headerRow.length + 1 + table.rows.length &&
    (Text.lines text)[table.headerRow.length]? ==
      some (separatorRow table.columnCount (table.align.getD [])) &&
    (Text.lines text).all (isPipeLine table.columnCount)

private theorem length_le_columnCount {cells : List Content} (h : cells ∈ table.cellRows) :
    cells.length ≤ table.columnCount := by
  refine le_foldl_max (.inr ?_)
  rw [cellRows, List.mem_append] at h
  rcases h with hheaders | hrow
  · rw [headerRow] at hheaders
    split at hheaders
    · cases hheaders
    · rw [List.mem_singleton.mp hheaders]
      simp
  · exact List.mem_append_left _ (List.mem_map_of_mem hrow)

private theorem length_align_le_columnCount (table : Table) :
    (table.align.getD []).length ≤ table.columnCount :=
  le_foldl_max (.inr (List.mem_append_right _ (List.mem_cons_of_mem _ (List.mem_singleton_self _))))

private theorem headerRows_eq (width : Nat) :
    headerRows width table = tableRows width table.emptyCell table.headerRow := by
  rw [headerRows, headerRow]
  cases table.headers.getD [] with
  | nil => rfl
  | cons first rest => rfl

/-- A table is written as the rows of its headers and cells with a line between them. -/
theorem exists_lines_of_emitTable (hwidth : 0 < table.columnCount) {text : String}
    (h : (emitTable table).Yields (.ok text)) :
    ∃ front back,
      text = Text.join "\n"
        (front ++ separatorRow table.columnCount (table.align.getD []) :: back) ∧
      List.Forall₂ (IsRowOf table.columnCount table.emptyCell) table.headerRow front ∧
      List.Forall₂ (IsRowOf table.columnCount table.emptyCell) table.rows back := by
  rw [emitTable, if_neg hwidth.ne', headerRows_eq, Emission.yields_bind_ok] at h
  obtain ⟨front, hfront, h⟩ := h
  obtain ⟨back, hback, h⟩ := (Emission.yields_bind_ok _ _ _).mp h
  cases h
  exact ⟨front, back, rfl, forall₂_of_yields_tableRows hfront, forall₂_of_yields_tableRows hback⟩

/-- Joined lines are a grid just if each of them is one line of the table. -/
theorem isGrid_join_iff {front back : List String} (hfront : front.length = table.headerRow.length)
    (hback : back.length = table.rows.length) :
    table.isGrid (Text.join "\n"
        (front ++ separatorRow table.columnCount (table.align.getD []) :: back)) = true ↔
      ∀ line ∈ front ++ separatorRow table.columnCount (table.align.getD []) :: back,
        '\n' ∉ line.toList ∧ isPipeLine table.columnCount line = true := by
  set parts := front ++ separatorRow table.columnCount (table.align.getD []) :: back with hparts
  have hne : parts ≠ [] := List.append_ne_nil_of_right_ne_nil _ (List.cons_ne_nil _ _)
  have hlength : parts.length = table.headerRow.length + 1 + table.rows.length := by
    rw [hparts, List.length_append, List.length_cons]
    omega
  rw [isGrid, Bool.and_eq_true, Bool.and_eq_true, beq_iff_eq, beq_iff_eq, List.all_eq_true,
    ← hlength]
  constructor
  · rintro ⟨⟨hlines, -⟩, hall⟩
    rw [Text.lines_join_eq hne] at hlines
    have hfeed := Text.notMem_of_length_flatMap_lines hlines.le
    rw [Text.lines_join hne hfeed] at hall
    exact fun line hline ↦ ⟨hfeed line hline, hall line hline⟩
  · intro h
    rw [Text.lines_join hne fun line hline ↦ (h line hline).1]
    refine ⟨⟨rfl, ?_⟩, fun line hline ↦ (h line hline).2⟩
    rw [hparts, ← hfront, List.getElem?_append_right (Nat.le_refl _), Nat.sub_self,
      List.getElem?_cons_zero]

/-- A table with columns is always written. What is written is a grid, unless a row is too short and
the filler does not stay in a cell. -/
theorem isGrid_iff (hwidth : 0 < table.columnCount) (config : Config) (state : EmitState)
    (tool : String) (cache : Cache) :
    ∃ text, (((Block.leaf (.table table)).emit config state).run tool cache).1 = .ok text ∧
      (table.isGrid text = true ↔
        (table.isPadded = true → staysInCell table.emptyCell = true)) := by
  have hemit : (Block.leaf (.table table)).emit config state = emitTable table := by
    rw [Block.emit, Leaf.emit]
  have hyields := Emission.yields_run tool cache (emitTable table)
  rw [hemit]
  cases hrun : ((emitTable table).run tool cache).1 with
  | error error =>
    rw [hrun] at hyields
    exact absurd hyields (not_yields_error_emitTable error table)
  | ok text =>
    refine ⟨text, rfl, ?_⟩
    rw [hrun] at hyields
    obtain ⟨front, back, rfl, hfront, hback⟩ := exists_lines_of_emitTable hwidth hyields
    have hseparator := isPipeLine_separatorRow hwidth (length_align_le_columnCount table)
    have hrows : (∀ line ∈ front ++ back,
          '\n' ∉ line.toList ∧ isPipeLine table.columnCount line = true) ↔
        ∀ cells ∈ table.cellRows,
          cells.length < table.columnCount → staysInCell table.emptyCell = true :=
      forall_mem_iff_of_forall₂ (List.rel_append hfront hback) fun cells hcells line hline ↦
        hline.isPipeLine_iff hwidth (length_le_columnCount hcells)
    rw [isGrid_join_iff hfront.length_eq.symm hback.length_eq.symm, List.forall_mem_append,
      List.forall_mem_cons, and_iff_right hseparator, ← List.forall_mem_append, hrows, isPadded,
      List.any_eq_true]
    constructor
    · rintro hall ⟨cells, hcells, hshort⟩
      exact hall cells hcells (of_decide_eq_true hshort)
    · intro hfiller cells hcells hshort
      exact hfiller ⟨cells, hcells, decide_eq_true hshort⟩

/-- A short row and a cell with a pipe, where the filler is a dash. -/
theorem isGrid_iff_dash :
    let table : Table :=
      { headers := some [.text "a", .text "b"], rows := [[.text "1|2"]], emptyCell := "-" }
    0 < table.columnCount ∧
      ∃ text, (((Block.leaf (.table table)).emit {} {}).run "jq" {}).1 = .ok text ∧
        (table.isGrid text = true ↔
          (table.isPadded = true → staysInCell table.emptyCell = true)) :=
  ⟨by decide, isGrid_iff (by decide) {} {} "jq" {}⟩

/-- A filler with a pipe makes a row with one pipe too many. -/
theorem not_isGrid_pipe_filler :
    let table : Table :=
      { headers := some [.text "a", .text "b"], rows := [[.text "1"]], emptyCell := "|" }
    (((Block.leaf (.table table)).emit {} {}).run "jq" {}).1 =
        .ok "| a | b |\n| --- | --- |\n| 1 | | |" ∧
      isPipeLine table.columnCount "| 1 | | |" = false ∧
      table.isGrid "| a | b |\n| --- | --- |\n| 1 | | |" = false :=
  ⟨rfl, by decide, by decide⟩

end Table

end Runbook
