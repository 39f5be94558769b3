import Runbook.Proofs.CommandLines
import Runbook.Proofs.Tables

/-!
# Lines with markers

The text of a list is put together from the texts of its items, and those from the texts of the
blocks in them. To say where the marker of an item ends up, the lines are followed on the way: a row
is a line together with the marker that it holds, and each way to put texts together is repeated
here for rows. Without the markers, the rows are the lines of the text (`Row.AreLaid.map_line_eq`).

A marker knows how its item stands in the items around it (`Turn`). This determines its column: a
list that is a block of an item indents itself by its depth, and all other blocks of an item are
written at their own depth and are then moved to the right, so a list inside of such a block is
indented twice.
-/

namespace Runbook

theorem Text.feed_notMem_of_mem_splitLines {text line : List Char} (h : line ∈ splitLines text) :
    '\n' ∉ line := by
  induction text generalizing line with
  | nil =>
    rw [List.mem_singleton.mp h]
    exact List.not_mem_nil
  | cons c rest ih =>
    obtain ⟨first, others, hrest⟩ := List.exists_cons_of_ne_nil (splitLines_ne_nil rest)
    rw [hrest] at ih
    rw [splitLines, hrest] at h
    split at h
    · rcases List.mem_cons.mp h with rfl | h
      · exact List.not_mem_nil
      · exact ih h
    · next hc =>
      rcases List.mem_cons.mp h with rfl | h
      · exact List.not_mem_cons_of_ne_of_not_mem (Ne.symm hc) (ih List.mem_cons_self)
      · exact ih (List.mem_cons_of_mem _ h)

/-! ## Markers -/

/-- How an item stands in the next item around it. -/
inductive Turn where
  /-- In a list that is a block of that item. -/
  | list
  /-- In a list that stands in another block of that item. -/
  | inner
  /-- In no list. -/
  | bare
deriving DecidableEq, Repr, Inhabited

structure Marker where
  /-- The number of the item; without one, it has a dash. -/
  number : Option Nat
  /-- The outermost item stands in a list. -/
  listed : Bool
  /-- The way from the outermost item to this one. -/
  trail : List Turn := []
deriving DecidableEq, Repr, Inhabited

namespace Marker

def text (marker : Marker) : String :=
  match marker.number with
  | none => "-"
  | some number => toString number ++ "."

/-- The depth of the outermost item in a block at depth `outer`. -/
def depth (outer : Nat) (marker : Marker) : Nat :=
  if marker.listed then outer + 1 else max outer 1

/-- How far a marker stands to the right of that of the outermost item. -/
def inset : Nat → List Turn → Nat
  | _, [] => 0
  | depth, .list :: trail => 2 + inset (depth + 1) trail
  | depth, .inner :: trail => 2 + 2 * depth + inset (depth + 1) trail
  | depth, .bare :: trail => 2 * depth + inset depth trail

/-- The column of a marker in the text of a block at depth `outer`. -/
def column (outer : Nat) (marker : Marker) : Nat :=
  2 * (marker.depth outer - 1) + inset (marker.depth outer) marker.trail

/-- The marker of an item in a block of another item. -/
def within (role : Role) (listed : Bool) (marker : Marker) : Marker :=
  let turn := if marker.listed then if role = .list then Turn.list else .inner else .bare
  { marker with listed, trail := turn :: marker.trail }

private theorem depth_pos (outer : Nat) (marker : Marker) : 0 < marker.depth outer := by
  rw [depth]
  split <;> omega

theorem text_ne_nil (marker : Marker) : marker.text.toList ≠ [] := by
  rw [text]
  split
  · decide
  · rw [String.toList_append]
    exact List.append_ne_nil_of_right_ne_nil _ (by decide)

theorem all_isNumberChar_text (marker : Marker) : marker.text.toList.all isNumberChar = true := by
  rw [text]
  split
  · decide
  · next number hnumber =>
    rw [String.toList_append, List.all_append, Bool.and_eq_true]
    exact ⟨all_isNumberChar_repr number, by decide⟩

/-- A list in an item, seen from outside of the item. -/
theorem column_within_list {outer depth : Nat} {marker : Marker} (hmarker : marker.listed = true)
    {item : Marker} (hdepth : depth = item.depth outer) :
    (marker.within .list item.listed).column outer = marker.column depth := by
  have hpos := hdepth ▸ item.depth_pos outer
  have hitem : (marker.within .list item.listed).depth outer = depth := hdepth.symm
  have hinner : marker.depth depth = depth + 1 := if_pos hmarker
  rw [column, column, hitem, hinner]
  simp only [within, hmarker, if_true, inset]
  omega

/-- Any other block in an item, seen from outside of the item: it is moved to the right. -/
theorem column_within {outer depth : Nat} {role : Role} (hrole : role ≠ .list) (marker : Marker)
    {item : Marker} (hdepth : depth = item.depth outer) :
    (marker.within role item.listed).column outer = 2 * depth + marker.column depth := by
  have hpos := hdepth ▸ item.depth_pos outer
  have hitem : (marker.within role item.listed).depth outer = depth := hdepth.symm
  rw [column, column, hitem]
  cases hlisted : marker.listed with
  | true =>
    have hinner : marker.depth depth = depth + 1 := if_pos hlisted
    simp only [hinner, within, hlisted, if_true, if_neg hrole, inset]
    omega
  | false =>
    have hinner : marker.depth depth = depth := by
      rw [Marker.depth, hlisted, if_neg Bool.false_ne_true]
      omega
    simp only [hinner, within, hlisted, Bool.false_eq_true, if_false, inset]
    omega

end Marker

/-! ## Rows -/

/-- A line of a text and the marker in it. -/
structure Row where
  line : List Char
  marker : Option Marker := none
deriving DecidableEq, Repr, Inhabited

namespace Row

def text (rows : List Row) : String := String.ofList (Text.joinChars ['\n'] (rows.map Row.line))

/-- The markers in the rows, from top to bottom. -/
def markers (rows : List Row) : List Marker := rows.filterMap Row.marker

/-- Lines without markers. -/
def unmarked (lines : List (List Char)) : List Row := lines.map fun line ↦ { line }

/-- The lines of a text without markers. -/
def plain (text : String) : List Row := unmarked (Text.splitLines text.toList)

/-- The marker stands in its column, in the text of a block at depth `outer`. -/
structure Fits (outer : Nat) (row : Row) : Prop where
  feed : '\n' ∉ row.line
  column : ∀ marker, row.marker = some marker →
    ∃ rest, row.line = List.replicate (marker.column outer) ' ' ++ (marker.text.toList ++ rest)

/-- Rows of a text in which all markers stand in their columns. -/
structure AreLaid (outer : Nat) (rows : List Row) : Prop where
  ne_nil : rows ≠ []
  fits : ∀ row ∈ rows, row.Fits outer

variable {outer : Nat} {rows more : List Row}

theorem AreLaid.append (h : AreLaid outer rows) (hmore : ∀ row ∈ more, row.Fits outer) :
    AreLaid outer (rows ++ more) :=
  ⟨List.append_ne_nil_of_left_ne_nil h.ne_nil _, List.forall_mem_append.mpr ⟨h.fits, hmore⟩⟩

/-- The rows are the lines of their text. -/
theorem AreLaid.map_line_eq (h : AreLaid outer rows) :
    rows.map Row.line = Text.splitLines (text rows).toList := by
  rw [text, String.toList_ofList, Text.splitLines_joinChars (by simpa using h.ne_nil)]
  intro line hline
  obtain ⟨row, hrow, rfl⟩ := List.mem_map.mp hline
  exact (h.fits row hrow).feed

private theorem text_append (hrows : rows ≠ []) (hmore : more ≠ []) :
    text (rows ++ more) = text rows ++ "\n" ++ text more := by
  rw [text, List.map_append, Text.joinChars_append _ (by simpa using hrows) (by simpa using hmore),
    String.ofList_append, String.ofList_append]
  rfl

private theorem markers_append (rows more : List Row) :
    markers (rows ++ more) = markers rows ++ markers more := List.filterMap_append

private theorem map_line_unmarked (lines : List (List Char)) :
    (unmarked lines).map Row.line = lines := by
  rw [unmarked, List.map_map]
  exact List.map_id lines

theorem text_plain (written : String) : text (plain written) = written := by
  rw [plain, text, map_line_unmarked, Text.joinChars_splitLines, String.ofList_toList]

theorem markers_unmarked (lines : List (List Char)) : markers (unmarked lines) = [] := by
  rw [markers, unmarked, List.filterMap_map]
  exact List.filterMap_eq_nil_iff.mpr fun _ _ ↦ rfl

private theorem fits_unmarked {lines : List (List Char)} (h : ∀ line ∈ lines, '\n' ∉ line) :
    ∀ row ∈ unmarked lines, row.Fits outer := by
  intro row hrow
  obtain ⟨line, hline, rfl⟩ := List.mem_map.mp hrow
  exact ⟨h line hline, fun marker hmarker ↦ absurd hmarker (by simp)⟩

theorem areLaid_plain (outer : Nat) (written : String) : AreLaid outer (plain written) := by
  have hne : plain written ≠ [] := by
    simpa [plain, unmarked] using Text.splitLines_ne_nil _
  exact ⟨hne, fits_unmarked fun line hline ↦ Text.feed_notMem_of_mem_splitLines hline⟩

/-- An empty text holds no marker. -/
theorem AreLaid.markers_eq_nil (h : AreLaid outer rows) (hempty : text rows = "") :
    markers rows = [] := by
  have hlines := h.map_line_eq
  rw [hempty] at hlines
  obtain ⟨row, rfl, hrow⟩ := List.map_eq_singleton_iff.mp hlines
  refine List.filterMap_eq_nil_iff.mpr fun other hother ↦ ?_
  rw [List.mem_singleton.mp hother]
  refine Option.eq_none_iff_forall_ne_some.mpr fun marker hmarker ↦ ?_
  obtain ⟨rest, hline⟩ := (h.fits row List.mem_cons_self).column marker hmarker
  rw [hrow] at hline
  have hnil := (List.append_eq_nil_iff.mp (List.append_eq_nil_iff.mp hline.symm).2).1
  exact marker.text_ne_nil hnil

/-! ## Putting rows together -/

/-- Parts below each other, with further rows between them. -/
def join (gap : List Row) : List (List Row) → List Row
  | [] => [{ line := [] }]
  | [rows] => rows
  | rows :: next :: rest => rows ++ (gap ++ join gap (next :: rest))

/-- The rows that stand for a separator. -/
structure IsGap (separator : String) (gap : List Row) : Prop where
  unmarked : gap = unmarked (gap.map Row.line)
  feed : ∀ row ∈ gap, '\n' ∉ row.line
  text : ∀ rows more, rows ≠ [] → more ≠ [] →
    text (rows ++ (gap ++ more)) = text rows ++ separator ++ text more

theorem isGap_nil : IsGap "\n" [] where
  unmarked := rfl
  feed := List.forall_mem_nil _
  text _ _ hrows hmore := text_append hrows hmore

theorem isGap_empty : IsGap "\n\n" [{ line := [] }] where
  unmarked := rfl
  feed := by simp
  text rows more hrows hmore := by
    have hempty : ([{ line := [] }] : List Row) ≠ [] := List.cons_ne_nil _ _
    have htext : text [{ line := [] }] = "" := rfl
    have hfeeds : "\n\n" = "\n" ++ "\n" := rfl
    rw [text_append hrows (List.append_ne_nil_of_right_ne_nil _ hmore), text_append hempty hmore,
      htext, String.empty_append, hfeeds, String.append_assoc, String.append_assoc,
      String.append_assoc]

variable {separator : String} {gap : List Row}

theorem IsGap.markers_eq_nil (h : IsGap separator gap) : markers gap = [] := by
  rw [h.unmarked, markers_unmarked]

theorem IsGap.fits (h : IsGap separator gap) : ∀ row ∈ gap, row.Fits outer := by
  rw [h.unmarked]
  refine fits_unmarked fun line hline ↦ ?_
  obtain ⟨row, hrow, rfl⟩ := List.mem_map.mp hline
  exact h.feed row hrow

theorem areLaid_join (hgap : IsGap separator gap) {parts : List (List Row)}
    (h : ∀ part ∈ parts, AreLaid outer part) : AreLaid outer (join gap parts) := by
  induction parts with
  | nil => exact areLaid_plain outer ""
  | cons rows rest ih =>
    obtain ⟨hrows, hrest⟩ := List.forall_mem_cons.mp h
    cases rest with
    | nil => exact hrows
    | cons next rest =>
      exact hrows.append (List.forall_mem_append.mpr ⟨hgap.fits, (ih hrest).fits⟩)

theorem text_join (hgap : IsGap separator gap) {parts : List (List Row)}
    (h : ∀ part ∈ parts, AreLaid outer part) :
    text (join gap parts) = Text.join separator (parts.map text) := by
  induction parts with
  | nil => rfl
  | cons rows rest ih =>
    obtain ⟨hrows, hrest⟩ := List.forall_mem_cons.mp h
    cases rest with
    | nil => rw [join, List.map_singleton, Text.join_singleton]
    | cons next rest =>
      have hparts : Text.join separator ((rows :: next :: rest).map text) =
          text rows ++ separator ++ Text.join separator ((next :: rest).map text) := by
        rw [List.map_cons, ← List.singleton_append,
          Text.join_append _ (List.cons_ne_nil _ _) (by simp), Text.join_singleton]
      rw [join, hgap.text _ _ hrows.ne_nil (areLaid_join hgap hrest).ne_nil, ih hrest, hparts]

theorem markers_join (hgap : IsGap separator gap) (parts : List (List Row)) :
    markers (join gap parts) = parts.flatMap markers := by
  induction parts with
  | nil => rfl
  | cons rows rest ih =>
    cases rest with
    | nil => rw [join, List.flatMap_singleton]
    | cons next rest =>
      rw [join, markers_append, markers_append, hgap.markers_eq_nil, ih, List.nil_append]
      rfl

/-- The rows with a marker in the first of them. -/
def label (marker : Marker) : List Row → List Row
  | [] => []
  | row :: rest => { row with marker := some marker } :: rest

private theorem text_label (marker : Marker) (rows : List Row) :
    text (label marker rows) = text rows := by
  cases rows <;> rfl

theorem AreLaid.label {row : Row} (h : AreLaid outer (row :: rows)) {marker : Marker}
    (hmarker : ∃ rest, row.line =
      List.replicate (marker.column outer) ' ' ++ (marker.text.toList ++ rest)) :
    AreLaid outer (label marker (row :: rows)) := by
  obtain ⟨hrow, hrows⟩ := List.forall_mem_cons.mp h.fits
  refine ⟨List.cons_ne_nil _ _, List.forall_mem_cons.mpr ⟨⟨hrow.feed, ?_⟩, hrows⟩⟩
  intro shown hshown
  rw [← Option.some.inj hshown]
  exact hmarker

end Row

/-! ## Items -/

/-- The rows of a block and its role. -/
structure RowPiece where
  role : Role
  rows : List Row
deriving DecidableEq, Repr, Inhabited

namespace RowPiece

/-- The piece without the markers. -/
def piece (piece : RowPiece) : Piece := ⟨piece.role, Row.text piece.rows⟩

/-- The markers in the piece stand in their columns, at depth `outer`. -/
structure IsLaid (outer : Nat) (piece : RowPiece) : Prop where
  rows : Row.AreLaid outer piece.rows
  lead : piece.role = .paragraph → Row.markers piece.rows = []
  listed : piece.role = .list → ∀ marker ∈ Row.markers piece.rows, marker.listed = true

/-- The markers in the piece as those of an item that holds it. -/
def markersWithin (listed : Bool) (piece : RowPiece) : List Marker :=
  (Row.markers piece.rows).map (Marker.within piece.role listed)

/-- The row of a piece in an item. A list stays where it is. -/
def hungRow (pad : String) (listed : Bool) (role : Role) (row : Row) : Row where
  line := if role = .list then row.line else Text.padLine (pad ++ "  ").toList row.line
  marker := row.marker.map (Marker.within role listed)

/-- The rows of a piece below the line of the marker. -/
def hung (pad : String) (listed : Bool) (piece : RowPiece) : List Row :=
  if piece.role ≠ .list ∧ (Row.text piece.rows).isEmpty then []
  else piece.rows.map (hungRow pad listed piece.role)

/-- The pieces below the line of the marker. -/
def behindLead : List RowPiece → List RowPiece
  | ⟨.paragraph, _⟩ :: rest => rest
  | pieces => pieces

variable {outer depth : Nat} {pad : String} {listed : Bool} {piece : RowPiece}

private theorem markers_hung (h : piece.IsLaid depth) :
    Row.markers (hung pad listed piece) = piece.markersWithin listed := by
  rw [hung]
  split
  · next hempty =>
    have htext : Row.text piece.rows = "" := by simpa using hempty.2
    rw [markersWithin, h.rows.markers_eq_nil htext]
    rfl
  · rw [Row.markers, List.filterMap_map, markersWithin, Row.markers, List.map_filterMap]
    rfl

private theorem text_map_hungRow_list (rows : List Row) :
    Row.text (rows.map (hungRow pad listed .list)) = Row.text rows := by
  rw [Row.text, List.map_map]
  rfl

private theorem text_map_hungRow {role : Role} (hrole : role ≠ .list) {rows : List Row}
    (h : Row.AreLaid depth rows) :
    Row.text (rows.map (hungRow pad listed role)) =
      Text.indentLines (pad ++ "  ") (Row.text rows) := by
  have hline : Row.line ∘ hungRow pad listed role = Text.padLine (pad ++ "  ").toList ∘ Row.line :=
    funext fun row ↦ if_neg hrole
  rw [Text.indentLines, ← h.map_line_eq, Row.text, List.map_map, List.map_map, hline]

/-- The text of the piece below the line of the marker, unless it is left out. -/
theorem hungPiece_eq (pad : String) (listed : Bool) (h : piece.IsLaid depth) :
    (hung pad listed piece = [] ∧ Markdown.hungPiece pad piece.piece = []) ∨
      (hung pad listed piece ≠ [] ∧
        Markdown.hungPiece pad piece.piece = [Row.text (hung pad listed piece)]) := by
  have hne : piece.rows.map (hungRow pad listed piece.role) ≠ [] := by
    simpa using h.rows.ne_nil
  obtain ⟨role, rows⟩ := piece
  by_cases hrole : role = .list
  · subst hrole
    rw [hung, if_neg fun hempty ↦ hempty.1 rfl, text_map_hungRow_list]
    exact .inr ⟨hne, rfl⟩
  · have hpiece : Markdown.hungPiece pad (RowPiece.piece ⟨role, rows⟩) =
        if (Row.text rows).isEmpty then []
        else [Text.indentLines (pad ++ "  ") (Row.text rows)] := by
      cases role with
      | list => exact absurd rfl hrole
      | paragraph => rfl
      | other => rfl
    rw [hpiece, hung]
    by_cases hempty : (Row.text rows).isEmpty = true
    · rw [if_pos ⟨hrole, hempty⟩, if_pos hempty]
      exact .inl ⟨rfl, rfl⟩
    · rw [if_neg fun hboth ↦ hempty hboth.2, if_neg hempty, text_map_hungRow hrole h.rows]
      exact .inr ⟨hne, rfl⟩

private theorem toList_itemPad (depth : Nat) :
    (Markdown.itemPad depth).toList = List.replicate (2 * (depth - 1)) ' ' := String.toList_ofList

private theorem fits_hung {marker : Marker} (hdepth : depth = marker.depth outer)
    (h : piece.IsLaid depth) :
    ∀ row ∈ hung (Markdown.itemPad depth) marker.listed piece, row.Fits outer := by
  intro row hrow
  rw [hung] at hrow
  split at hrow
  · exact absurd hrow List.not_mem_nil
  obtain ⟨old, hold, rfl⟩ := List.mem_map.mp hrow
  have hfits := h.rows.fits old hold
  have hpos := hdepth ▸ marker.depth_pos outer
  have hpad : (Markdown.itemPad depth ++ "  ").toList = List.replicate (2 * depth) ' ' := by
    have hwidth : 2 * depth = 2 * (depth - 1) + 2 := by omega
    rw [String.toList_append, toList_itemPad, hwidth, List.replicate_add]
    rfl
  constructor
  · rw [hungRow, hpad]
    split
    · exact hfits.feed
    · rw [Text.padLine]
      split
      · exact List.not_mem_nil
      · rw [List.mem_append, not_or]
        exact ⟨fun hfeed ↦ absurd (List.eq_of_mem_replicate hfeed) (by decide), hfits.feed⟩
  · intro moved hmoved
    obtain ⟨inner, hinner, rfl⟩ := Option.map_eq_some_iff.mp hmoved
    obtain ⟨rest, hline⟩ := hfits.column inner hinner
    refine ⟨rest, ?_⟩
    rw [hungRow, hpad]
    -- A list stays where it is, all else is moved to the right of the marker.
    by_cases hrole : piece.role = .list
    · have hlisted := h.listed hrole inner (List.mem_filterMap.mpr ⟨old, hold, hinner⟩)
      rw [if_pos hrole, hrole, Marker.column_within_list hlisted hdepth]
      exact hline
    · have hne : old.line ≠ [] := by
        rw [hline]
        refine List.append_ne_nil_of_right_ne_nil _ (List.append_ne_nil_of_left_ne_nil ?_ _)
        exact inner.text_ne_nil
      rw [if_neg hrole, Text.padLine, if_neg hne, Marker.column_within hrole inner hdepth, hline,
        List.replicate_add, List.append_assoc]
      rfl

end RowPiece

namespace Row

open RowPiece

/-- The rows on which an item starts, with the text behind the marker. -/
def lead (marker : Marker) (depth : Nat) (written : String) : List Row :=
  label marker (plain (Text.trimEnd (Markdown.itemPad depth ++ marker.text ++ " " ++ written)))

def item (marker : Marker) (depth : Nat) (pieces : List RowPiece) : List Row :=
  lead marker depth (Markdown.leadText (pieces.map RowPiece.piece)) ++
    (behindLead pieces).flatMap (hung (Markdown.itemPad depth) marker.listed)

variable {outer depth : Nat} {marker : Marker} {pieces : List RowPiece}

/-- The first line holds the marker behind the blanks in front of it. -/
theorem exists_plain_eq (marker : Marker) (depth : Nat) (written : String) :
    ∃ rest others,
      plain (Text.trimEnd (Markdown.itemPad depth ++ marker.text ++ " " ++ written)) = unmarked
        ((List.replicate (2 * (depth - 1)) ' ' ++ (marker.text.toList ++ rest)) :: others) := by
  have hchars := marker.all_isNumberChar_text
  obtain ⟨front, c, hmark⟩ := (List.eq_nil_or_concat' _).resolve_left marker.text_ne_nil
  have hc : Text.isBlank c = false := by
    rw [hmark, List.all_append, Bool.and_eq_true] at hchars
    exact isBlank_of_isNumberChar (by simpa using hchars.2)
  have htext : (Markdown.itemPad depth ++ marker.text ++ " " ++ written).toList =
      (List.replicate (2 * (depth - 1)) ' ' ++ front) ++ c :: (' ' :: written.toList) := by
    simp [toList_itemPad, hmark]
  have hfeed : '\n' ∉ List.replicate (2 * (depth - 1)) ' ' ++ marker.text.toList := by
    rw [List.mem_append, not_or]
    exact ⟨fun hfeed ↦ absurd (List.eq_of_mem_replicate hfeed) (by decide),
      Markdown.feed_notMem_number hchars⟩
  -- Trimming stops at the marker, at the latest.
  obtain ⟨back, hback⟩ : ∃ back, (Text.trimEnd (Markdown.itemPad depth ++ marker.text ++ " " ++
      written)).toList = List.replicate (2 * (depth - 1)) ' ' ++ marker.text.toList ++ back := by
    rw [Text.trimEnd, String.toList_ofList, htext, Text.trimTrailing_append hc, hmark]
    exact ⟨Text.trimTrailing Text.isBlank (' ' :: written.toList), by simp⟩
  obtain ⟨first, others, hlines⟩ := List.exists_cons_of_ne_nil (Text.splitLines_ne_nil back)
  refine ⟨first, others, ?_⟩
  rw [plain, hback, Text.splitLines_append_of_notMem hfeed hlines, List.append_assoc]

private theorem text_lead (marker : Marker) (depth : Nat) (written : String) :
    text (lead marker depth written) =
      Text.trimEnd (Markdown.itemPad depth ++ marker.text ++ " " ++ written) := by
  rw [lead, text_label, text_plain]

private theorem markers_lead (marker : Marker) (depth : Nat) (written : String) :
    markers (lead marker depth written) = [marker] := by
  obtain ⟨rest, others, hplain⟩ := exists_plain_eq marker depth written
  rw [lead, hplain]
  exact congrArg (marker :: ·) (markers_unmarked others)

private theorem areLaid_lead (hdepth : depth = marker.depth outer) (htrail : marker.trail = [])
    (written : String) : AreLaid outer (lead marker depth written) := by
  obtain ⟨rest, others, hplain⟩ := exists_plain_eq marker depth written
  have hlaid := areLaid_plain outer
    (Text.trimEnd (Markdown.itemPad depth ++ marker.text ++ " " ++ written))
  have hcolumn : marker.column outer = 2 * (depth - 1) := by
    rw [Marker.column, htrail, ← hdepth]
    rfl
  rw [hplain] at hlaid
  rw [lead, hplain]
  refine hlaid.label ⟨rest, ?_⟩
  rw [hcolumn]

private theorem join_append_feed (front line : String) (lines : List String) :
    Text.join "\n" ((front ++ "\n" ++ line) :: lines) =
      Text.join "\n" (front :: line :: lines) := by
  rw [← String.toList_inj, Text.toList_join_cons, Text.toList_join_cons, List.map_cons,
    Text.below_cons, String.toList_append, String.toList_append]
  simp

private theorem text_append_flatMap_hung {rows : List Row} (hrows : rows ≠ []) (pad : String)
    (listed : Bool) (h : ∀ piece ∈ pieces, piece.IsLaid depth) :
    text (rows ++ pieces.flatMap (hung pad listed)) = Text.join "\n"
      (text rows :: pieces.flatMap fun piece ↦ Markdown.hungPiece pad piece.piece) := by
  induction pieces generalizing rows with
  | nil => rw [List.flatMap_nil, List.flatMap_nil, List.append_nil, Text.join_singleton]
  | cons piece rest ih =>
    obtain ⟨hpiece, hrest⟩ := List.forall_mem_cons.mp h
    rw [List.flatMap_cons, List.flatMap_cons, ← List.append_assoc]
    obtain ⟨hnone, htext⟩ | ⟨hne, htext⟩ := hungPiece_eq pad listed hpiece
    · rw [hnone, htext, List.append_nil, ih hrows hrest]
      rfl
    · rw [htext, ih (List.append_ne_nil_of_left_ne_nil hrows _) hrest, text_append hrows hne,
        join_append_feed]
      rfl

private theorem hungPieces_map (pad : String) (pieces : List RowPiece) :
    Markdown.hungPieces pad (pieces.map RowPiece.piece) =
      (behindLead pieces).flatMap fun piece ↦ Markdown.hungPiece pad piece.piece := by
  refine Eq.trans ?_ (List.flatMap_map RowPiece.piece (Markdown.hungPiece pad) (behindLead pieces))
  match pieces with
  | [] => rfl
  | ⟨.paragraph, _⟩ :: _ | ⟨.list, _⟩ :: _ | ⟨.other, _⟩ :: _ => rfl

private theorem mem_of_mem_behindLead {piece : RowPiece} (h : piece ∈ behindLead pieces) :
    piece ∈ pieces := by
  match pieces with
  | [] => exact h
  | ⟨.paragraph, rows⟩ :: rest => exact List.mem_cons_of_mem _ h
  | ⟨.list, _⟩ :: _ | ⟨.other, _⟩ :: _ => exact h

theorem text_item (hdepth : depth = marker.depth outer) (htrail : marker.trail = [])
    (h : ∀ piece ∈ pieces, piece.IsLaid depth) :
    text (item marker depth pieces) =
      Markdown.itemText depth marker.text (pieces.map RowPiece.piece) := by
  have hlead := areLaid_lead hdepth htrail (Markdown.leadText (pieces.map RowPiece.piece))
  have hpieces := fun piece hpiece ↦ h piece (mem_of_mem_behindLead hpiece)
  rw [item, text_append_flatMap_hung hlead.ne_nil _ _ hpieces, text_lead, ← hungPieces_map]
  rfl

theorem areLaid_item (hdepth : depth = marker.depth outer) (htrail : marker.trail = [])
    (h : ∀ piece ∈ pieces, piece.IsLaid depth) : AreLaid outer (item marker depth pieces) := by
  refine (areLaid_lead hdepth htrail _).append fun row hrow ↦ ?_
  obtain ⟨piece, hpiece, hhung⟩ := List.mem_flatMap.mp hrow
  exact fits_hung hdepth (h piece (mem_of_mem_behindLead hpiece)) row hhung

private theorem flatMap_markersWithin_behindLead (listed : Bool)
    (h : ∀ piece ∈ pieces, piece.IsLaid depth) :
    (behindLead pieces).flatMap (markersWithin listed) = pieces.flatMap (markersWithin listed) := by
  match pieces with
  | [] => rfl
  | ⟨.paragraph, rows⟩ :: rest =>
    have hlead := (h ⟨.paragraph, rows⟩ List.mem_cons_self).lead rfl
    rw [List.flatMap_cons, markersWithin, hlead]
    rfl
  | ⟨.list, _⟩ :: _ | ⟨.other, _⟩ :: _ => rfl

theorem markers_item (h : ∀ piece ∈ pieces, piece.IsLaid depth) :
    markers (item marker depth pieces) =
      marker :: pieces.flatMap (markersWithin marker.listed) := by
  have hlead := markers_lead marker depth (Markdown.leadText (pieces.map RowPiece.piece))
  have hhung : markers ((behindLead pieces).flatMap (hung (Markdown.itemPad depth) marker.listed)) =
      (behindLead pieces).flatMap (markersWithin marker.listed) := by
    rw [markers, List.filterMap_flatMap]
    exact List.flatMap_congr fun piece hpiece ↦
      markers_hung (h piece (mem_of_mem_behindLead hpiece))
  rw [item, markers_append, hlead, hhung, flatMap_markersWithin_behindLead _ h]
  rfl

/-! ## Containers -/

/-- Pieces below each other; empty ones are left out. -/
def stack (gap : List Row) (pieces : List RowPiece) : List Row :=
  join gap ((pieces.filter fun piece ↦ !(text piece.rows).isEmpty).map RowPiece.rows)

variable {separator : String} {gap : List Row}

private theorem areLaid_of_mem_filter (h : ∀ piece ∈ pieces, piece.IsLaid outer) :
    ∀ part ∈ (pieces.filter fun piece ↦ !(text piece.rows).isEmpty).map RowPiece.rows,
      AreLaid outer part := by
  intro part hpart
  obtain ⟨piece, hpiece, rfl⟩ := List.mem_map.mp hpart
  exact (h piece (List.mem_of_mem_filter hpiece)).rows

theorem areLaid_stack (hgap : IsGap separator gap) (h : ∀ piece ∈ pieces, piece.IsLaid outer) :
    AreLaid outer (stack gap pieces) := areLaid_join hgap (areLaid_of_mem_filter h)

theorem text_stack (hgap : IsGap separator gap) (h : ∀ piece ∈ pieces, piece.IsLaid outer) :
    text (stack gap pieces) =
      Markdown.stackPieces separator (pieces.map RowPiece.piece) := by
  rw [stack, text_join hgap (areLaid_of_mem_filter h), Markdown.stackPieces, List.map_map,
    List.map_map, List.filter_map]
  rfl

theorem markers_stack (hgap : IsGap separator gap) (h : ∀ piece ∈ pieces, piece.IsLaid outer) :
    markers (stack gap pieces) = pieces.flatMap fun piece ↦ markers piece.rows := by
  rw [stack, markers_join hgap, List.flatMap_map]
  induction pieces with
  | nil => rfl
  | cons piece rest ih =>
    obtain ⟨hpiece, hrest⟩ := List.forall_mem_cons.mp h
    rw [List.filter_cons, List.flatMap_cons]
    split
    · rw [List.flatMap_cons, ih hrest]
    · next hempty =>
      have htext : text piece.rows = "" := by simpa using hempty
      rw [ih hrest, hpiece.rows.markers_eq_nil htext, List.nil_append]

/-- The lines of a text, some of which are the given rows: there are `below` lines below them. -/
def surround (below : Nat) (text : String) (body : List Row) : List Row :=
  let lines := Text.splitLines text.toList
  unmarked (lines.take (lines.length - below - body.length)) ++
    (body ++ unmarked (lines.drop (lines.length - below)))

/-- The text holds the lines of the rows, with lines above and `below` lines below them. -/
def Surrounds (below : Nat) (text : String) (body : List (List Char)) : Prop :=
  ∃ above after, Text.splitLines text.toList = above ++ (body ++ after) ∧ after.length = below

variable {below : Nat} {written : String} {body : List Row}

private theorem Surrounds.exists_eq (h : Surrounds below written (body.map Row.line)) :
    ∃ above after, Text.splitLines written.toList = above ++ (body.map Row.line ++ after) ∧
      surround below written body = unmarked above ++ (body ++ unmarked after) := by
  obtain ⟨above, after, hlines, hafter⟩ := h
  refine ⟨above, after, hlines, ?_⟩
  have habove : (Text.splitLines written.toList).length - below - body.length = above.length := by
    rw [hlines, List.length_append, List.length_append, List.length_map]
    omega
  have hbelow : (Text.splitLines written.toList).length - below =
      (above ++ body.map Row.line).length := by
    rw [hlines, List.length_append, List.length_append, List.length_append, List.length_map]
    omega
  rw [surround, habove, hbelow, hlines, List.take_left, ← List.append_assoc above, List.drop_left]

theorem text_surround (h : Surrounds below written (body.map Row.line)) :
    text (surround below written body) = written := by
  obtain ⟨above, after, hlines, hrows⟩ := h.exists_eq
  rw [hrows, text, List.map_append, List.map_append, map_line_unmarked, map_line_unmarked, ← hlines,
    Text.joinChars_splitLines, String.ofList_toList]

theorem areLaid_surround (h : Surrounds below written (body.map Row.line))
    (hbody : AreLaid outer body) : AreLaid outer (surround below written body) := by
  obtain ⟨above, after, hlines, hrows⟩ := h.exists_eq
  have hfeed : ∀ line ∈ above ++ (body.map Row.line ++ after), '\n' ∉ line := by
    intro line hline
    rw [← hlines] at hline
    exact Text.feed_notMem_of_mem_splitLines hline
  rw [List.forall_mem_append, List.forall_mem_append] at hfeed
  rw [hrows]
  refine ⟨?_, List.forall_mem_append.mpr ⟨fits_unmarked hfeed.1, List.forall_mem_append.mpr
    ⟨hbody.fits, fits_unmarked hfeed.2.2⟩⟩⟩
  exact List.append_ne_nil_of_right_ne_nil _ (List.append_ne_nil_of_left_ne_nil hbody.ne_nil _)

theorem markers_surround (h : Surrounds below written (body.map Row.line)) :
    markers (surround below written body) = markers body := by
  obtain ⟨above, after, -, hrows⟩ := h.exists_eq
  rw [hrows, markers_append, markers_append, markers_unmarked, markers_unmarked, List.nil_append,
    List.append_nil]

end Row

end Runbook
