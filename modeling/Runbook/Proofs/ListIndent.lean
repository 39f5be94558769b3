import Runbook.Check.ControlFlow
import Runbook.Proofs.CacheHistory
import Runbook.Proofs.MarkerRows

/-!
# How far items are indented

An item in another one is meant to be indented by two more than that. Lists do this themselves, by
the depth in their state. All other blocks of an item are indented as a whole, and that adds up with
the indent of a list inside of them: behind a group or a branch, the items of a list are indented
twice.

`Block.rows` follows the marker of each item into the text of a block, in step with the emission of
the block, and `Block.markers` lists the markers in the order of the tree. Both agree, and each
marker stands in the column that the way to its item determines (`Block.shows_rows`). The indent is
right exactly on straight ways (`Marker.isStraight`).
-/

namespace Runbook

/-! ## Containers -/

namespace Container

/-- The rows between the children. -/
def gap : Container → List Row
  | .group => []
  | _ => [{ line := [] }]

/-- The state for the children. -/
def innerState (state : EmitState) : Container → EmitState
  | .step .. => { state with headingOffset := state.headingOffset + 1 }
  | .agentSpawn _ => {}
  | _ => state

/-- The number of lines below the text of the children, if the lines of that text are kept as they
are. -/
def below? : Container → Option Nat
  | .blockquote | .indent _ | .agentSpawn _ => none
  | .xmlBlock name _ => some (Text.splitLines ("</" ++ name ++ ">").toList).length
  | .executionReference .. => some 1
  | .step _ _ .xml => some 1
  | _ => some 0

variable {config : Config} {state : EmitState} {tool : String} {head : Container} {frame : Frame}
  {below : Nat} {body text : String}

private theorem listDepth_innerState (h : head.below? = some below) (state : EmitState) :
    (head.innerState state).listDepth = state.listDepth := by
  cases head with
  | agentSpawn => cases h
  | _ => rfl

private theorem frame_eq (h : (head.frame config state).eval tool = .ok frame) :
    frame.state = head.innerState state ∧ Row.IsGap frame.separator head.gap := by
  cases head with
  | group =>
    cases h
    exact ⟨rfl, Row.isGap_nil⟩
  | blockquote | indent | executionReference | step | elseBranch =>
    cases h
    exact ⟨rfl, Row.isGap_empty⟩
  | xmlBlock | agentSpawn | conditional | loop =>
    obtain ⟨_, -, h⟩ := Markdown.exists_of_eval_bind h
    cases h
    exact ⟨rfl, Row.isGap_empty⟩
  | statusBranch output status =>
    rw [Container.frame] at h
    split at h
    · cases h
    · obtain ⟨_, -, h⟩ := Markdown.exists_of_eval_bind h
      cases h
      exact ⟨rfl, Row.isGap_empty⟩

/-- A body on lines of its own, with one text behind it. -/
theorem surrounds_join_feed (parts : List String) (body closing : String) :
    Row.Surrounds (Text.splitLines closing.toList).length
      (Text.join "\n" (parts ++ [body] ++ [closing])) (Text.splitLines body.toList) := by
  have htext : (Text.join "\n" (parts ++ [body] ++ [closing])).toList =
      Text.joinChars ['\n'] ((parts ++ [body] ++ [closing]).map String.toList) :=
    String.toList_ofList
  refine ⟨(parts.map String.toList).flatMap Text.splitLines, Text.splitLines closing.toList, ?_,
    rfl⟩
  rw [htext, Text.splitLines_joinChars_eq (by simp)]
  simp [List.flatMap_append]

/-- A body behind an empty line, with nothing behind it. -/
theorem surrounds_join_feeds {parts : List String} (hparts : parts ≠ []) (body : String) :
    Row.Surrounds 0 (Text.join "\n\n" (parts ++ [body])) (Text.splitLines body.toList) := by
  have htext : (Text.join "\n\n" (parts ++ [body])).toList =
      (Text.join "\n\n" parts).toList ++ '\n' :: '\n' :: body.toList := by
    rw [Text.join_append _ hparts (List.cons_ne_nil _ _), Text.join_singleton]
    simp
  refine ⟨Text.splitLines (Text.join "\n\n" parts).toList ++ [[]], [], ?_, rfl⟩
  rw [htext, Text.splitLines_append_feed, Text.splitLines, if_pos rfl, List.append_nil,
    List.append_assoc]
  rfl

private theorem surrounds_branch (header : String) (hbody : body.isEmpty = false) :
    Row.Surrounds 0 (Markdown.branch header body) (Text.splitLines body.toList) := by
  have htext : Markdown.branch header body = Text.join "\n\n" ([header] ++ [body]) := by
    rw [Markdown.branch, hbody, if_neg Bool.false_ne_true, Text.join_append _ (List.cons_ne_nil _ _)
      (List.cons_ne_nil _ _), Text.join_singleton, Text.join_singleton]
  rw [htext]
  exact surrounds_join_feeds (List.cons_ne_nil _ _) body

private theorem surrounds_tagged (opening closing : String) (hbody : body.isEmpty = false) :
    Row.Surrounds (Text.splitLines closing.toList).length (Markdown.tagged opening closing body)
      (Text.splitLines body.toList) := by
  have htext : Markdown.tagged opening closing body =
      Text.join "\n" ([opening] ++ [body] ++ [closing]) := by
    rw [Markdown.tagged, hbody, if_neg Bool.false_ne_true, Text.join_append _ (by simp)
      (List.cons_ne_nil _ _), Text.join_append _ (List.cons_ne_nil _ _) (List.cons_ne_nil _ _),
      Text.join_singleton, Text.join_singleton, Text.join_singleton]
  rw [htext]
  exact surrounds_join_feed [opening] body closing

private theorem loopParts_ne_nil {bound counter : Value} {parts : List String}
    (h : (Markdown.loopParts bound counter).eval tool = .ok parts) : parts ≠ [] := by
  obtain ⟨times, -, h⟩ := Markdown.exists_of_eval_bind h
  split at h
  · cases h
    exact List.cons_ne_nil _ _
  · obtain ⟨name, -, h⟩ := Markdown.exists_of_eval_bind h
    cases h
    exact List.cons_ne_nil _ _

/-- The lines of the children stand in the text of the container. -/
theorem surrounds_finish (hframe : (head.frame config state).eval tool = .ok frame)
    (hfinish : (frame.finish body).eval tool = .ok text) (hbelow : head.below? = some below)
    (hbody : body.isEmpty = false) : Row.Surrounds below text (Text.splitLines body.toList) := by
  cases head with
  | blockquote | indent | agentSpawn => cases hbelow
  | group =>
    cases hframe
    cases hfinish
    cases hbelow
    exact ⟨[], [], (List.append_nil _).symm, rfl⟩
  | xmlBlock name attributes =>
    obtain ⟨opening, -, hframe⟩ := Markdown.exists_of_eval_bind hframe
    cases hframe
    cases hfinish
    cases hbelow
    exact surrounds_tagged _ _ hbody
  | executionReference paths marker =>
    cases hframe
    cases hbelow
    have htext : text = Text.join "\n" (("<execution_context>" ::
        paths.map (Markdown.markedPath marker)) ++ [body] ++ ["</execution_context>"]) := by
      have hdone : text = Text.join "\n" (("<execution_context>" ::
          paths.map (Markdown.markedPath marker)) ++ (if body.isEmpty then [] else [body]) ++
            ["</execution_context>"]) := (Except.ok.inj hfinish).symm
      rwa [hbody, if_neg Bool.false_ne_true] at hdone
    rw [htext]
    exact surrounds_join_feed _ body "</execution_context>"
  | step number name layout =>
    cases hframe
    cases hfinish
    cases layout with
    | xml =>
      cases hbelow
      exact surrounds_tagged _ "</step>" hbody
    | bold | heading =>
      cases hbelow
      exact surrounds_branch _ hbody
  | statusBranch output status =>
    cases hbelow
    rw [Container.frame] at hframe
    split at hframe
    · cases hframe
    · obtain ⟨query, -, hframe⟩ := Markdown.exists_of_eval_bind hframe
      cases hframe
      cases hfinish
      exact surrounds_branch _ hbody
  | conditional condition =>
    obtain ⟨assertion, -, hframe⟩ := Markdown.exists_of_eval_bind hframe
    cases hframe
    cases hfinish
    cases hbelow
    exact surrounds_branch _ hbody
  | elseBranch =>
    cases hframe
    cases hfinish
    cases hbelow
    exact surrounds_branch _ hbody
  | loop bound counter =>
    obtain ⟨parts, hparts, hframe⟩ := Markdown.exists_of_eval_bind hframe
    cases hframe
    cases hbelow
    have htext : text = Text.join "\n\n" (parts ++ [body]) := by
      have hdone : text = Text.join "\n\n" (parts ++ if body.isEmpty then [] else [body]) :=
        (Except.ok.inj hfinish).symm
      rwa [hbody, if_neg Bool.false_ne_true] at hdone
    rw [htext]
    exact surrounds_join_feeds (loopParts_ne_nil hparts) body

end Container

/-! ## Blocks -/

/-- The text that an emission writes, if it does not fail. -/
def Emission.written (tool : String) (emission : Emission String) : String :=
  (emission.eval tool).toOption.getD ""

private theorem Emission.written_eq {tool text : String} {emission : Emission String}
    (h : emission.eval tool = .ok text) : emission.written tool = text := by
  rw [written, h]
  rfl

namespace Block

mutual
/-- The markers of the items in a block, from top to bottom. Containers that change the lines of
their children show none. -/
def markers (config : Config) : Block → List Marker
  | .leaf _ => []
  | .container head children =>
    if head.below?.isSome then markersSequence config (fun _ marker ↦ marker) children else []
  | .item children =>
    { number := none, listed := false } :: markersSequence config (Marker.within · false) children
  | .list ordered start items => markersItems config ordered start items

/-- The markers of the items in a sequence of blocks, changed by the role of the block. -/
def markersSequence (config : Config) (change : Role → Marker → Marker) :
    List Block → List Marker
  | [] => []
  | block :: rest =>
    (markers config block).map (change block.role) ++
      if config.skipUnreachable && block.exit?.isSome then []
      else markersSequence config change rest

/-- The markers of the items of a list and of those in them. -/
def markersItems (config : Config) (ordered : Bool) (number : Nat) :
    List (List Block) → List Marker
  | [] => []
  | blocks :: rest =>
    { number := if ordered then some number else none, listed := true } ::
      (markersSequence config (Marker.within · true) blocks ++
        if config.skipUnreachable && (firstExit? blocks).isSome then []
        else markersItems config ordered (number + 1) rest)
end

mutual
def rows (config : Config) (tool : String) (state : EmitState) : Block → List Row
  | .leaf content => Row.plain ((content.emit config state).written tool)
  | .container head children =>
    let text := ((Block.container head children).emit config state).written tool
    let body := Row.stack head.gap (rowsSequence config tool (head.innerState state) children)
    match head.below? with
    | none => Row.plain text
    | some below => if (Row.text body).isEmpty then Row.plain text else Row.surround below text body
  | .item children =>
    let depth := max state.listDepth 1
    Row.item { number := none, listed := false } depth
      (rowsSequence config tool { state with listDepth := depth } children)
  | .list ordered start items =>
    let depth := state.listDepth + 1
    Row.join [] (rowsItems config tool { state with listDepth := depth } ordered start items)

def rowsSequence (config : Config) (tool : String) (state : EmitState) :
    List Block → List RowPiece
  | [] => []
  | block :: rest =>
    ⟨block.role, rows config tool state block⟩ ::
      if config.skipUnreachable && block.exit?.isSome then []
      else rowsSequence config tool state rest

def rowsItems (config : Config) (tool : String) (state : EmitState) (ordered : Bool)
    (number : Nat) : List (List Block) → List (List Row)
  | [] => []
  | blocks :: rest =>
    Row.item { number := if ordered then some number else none, listed := true } state.listDepth
      (rowsSequence config tool state blocks) ::
      if config.skipUnreachable && (firstExit? blocks).isSome then []
      else rowsItems config tool state ordered (number + 1) rest
end

private theorem listed_of_mem_markersSequence {config : Config} {blocks : List Block}
    {marker : Marker} (h : marker ∈ markersSequence config (Marker.within · true) blocks) :
    marker.listed = true := by
  induction blocks with
  | nil =>
    rw [markersSequence] at h
    exact absurd h List.not_mem_nil
  | cons block rest ih =>
    rw [markersSequence, List.mem_append] at h
    rcases h with h | h
    · obtain ⟨inner, -, rfl⟩ := List.mem_map.mp h
      rfl
    · split at h
      · exact absurd h List.not_mem_nil
      · exact ih h

private theorem listed_of_mem_markersItems {config : Config} {ordered : Bool} {number : Nat}
    {items : List (List Block)} {marker : Marker}
    (h : marker ∈ markersItems config ordered number items) : marker.listed = true := by
  induction items generalizing number with
  | nil =>
    rw [markersItems] at h
    exact absurd h List.not_mem_nil
  | cons blocks rest ih =>
    rw [markersItems, List.mem_cons, List.mem_append] at h
    rcases h with rfl | h | h
    · rfl
    · exact listed_of_mem_markersSequence h
    · split at h
      · exact absurd h List.not_mem_nil
      · exact ih h

/-- Rows that show the text with all its markers. -/
structure Shows (outer : Nat) (text : String) (markers : List Marker) (rows : List Row) : Prop where
  text : Row.text rows = text
  laid : Row.AreLaid outer rows
  markers : Row.markers rows = markers

private theorem shows_plain (outer : Nat) (text : String) : Shows outer text [] (Row.plain text) :=
  ⟨Row.text_plain text, Row.areLaid_plain outer text, Row.markers_unmarked _⟩

/-- Row pieces that show the pieces of a sequence with all their markers. -/
structure ShowsAll (outer : Nat) (pieces : List Piece)
    (markers : (Role → Marker → Marker) → List Marker) (found : List RowPiece) : Prop where
  pieces : pieces = found.map RowPiece.piece
  laid : ∀ piece ∈ found, piece.IsLaid outer
  markers : ∀ change, markers change =
    found.flatMap fun piece ↦ (Row.markers piece.rows).map (change piece.role)

variable {outer depth : Nat} {pieces : List Piece} {found : List RowPiece}
  {change : (Role → Marker → Marker) → List Marker}

theorem ShowsAll.item (hall : ShowsAll depth pieces change found) (marker : Marker)
    (hdepth : depth = marker.depth outer) (htrail : marker.trail = []) :
    Shows outer (Markdown.itemText depth marker.text pieces)
      (marker :: change (Marker.within · marker.listed)) (Row.item marker depth found) where
  text := by rw [Row.text_item hdepth htrail hall.laid, hall.pieces]
  laid := Row.areLaid_item hdepth htrail hall.laid
  markers := by
    rw [Row.markers_item hall.laid, hall.markers]
    rfl

theorem ShowsAll.stack {separator : String} {gap : List Row} (hgap : Row.IsGap separator gap)
    (hall : ShowsAll outer pieces change found) :
    Shows outer (Markdown.stackPieces separator pieces) (change fun _ marker ↦ marker)
      (Row.stack gap found) where
  text := by rw [Row.text_stack hgap hall.laid, hall.pieces]
  laid := Row.areLaid_stack hgap hall.laid
  markers := by
    rw [Row.markers_stack hgap hall.laid, hall.markers]
    simp only [List.map_id']

/-- The text of a container around that of its children. -/
theorem Shows.surround {body text : String} {found : List Marker} {rows : List Row} {below : Nat}
    (h : Shows outer body found rows)
    (hsurrounds : body.isEmpty = false → Row.Surrounds below text (Text.splitLines body.toList)) :
    Shows outer text found
      (if (Row.text rows).isEmpty then Row.plain text else Row.surround below text rows) := by
  rw [h.text]
  split
  · next hempty =>
    have hnone := h.laid.markers_eq_nil (h.text.trans (by simpa using hempty))
    rw [← h.markers, hnone]
    exact shows_plain outer text
  · next hfull =>
    have hlines := hsurrounds (by simpa using hfull)
    rw [← h.text, ← h.laid.map_line_eq] at hlines
    exact ⟨Row.text_surround hlines, Row.areLaid_surround hlines h.laid,
      (Row.markers_surround hlines).trans h.markers⟩

private theorem isLaid_of_shows {config : Config} {block : Block} {text : String} {rows : List Row}
    (h : Shows outer text (block.markers config) rows) :
    RowPiece.IsLaid outer ⟨block.role, rows⟩ where
  rows := h.laid
  lead hrole := by
    rw [h.markers]
    match block, hrole with
    | .leaf content, _ => rw [markers]
  listed hrole := by
    rw [h.markers]
    match block, hrole with
    | .list ordered start items, _ =>
      rw [markers]
      exact fun marker hmarker ↦ listed_of_mem_markersItems hmarker

private theorem showsAll_nil (outer : Nat) : ShowsAll outer [] (fun _ ↦ []) [] :=
  ⟨rfl, List.forall_mem_nil _, fun _ ↦ rfl⟩

theorem ShowsAll.cons {config : Config} {block : Block} {text : String} {rows : List Row}
    (hall : ShowsAll outer pieces change found)
    (hblock : Shows outer text (block.markers config) rows) :
    ShowsAll outer (⟨block.role, text⟩ :: pieces)
      (fun f ↦ (block.markers config).map (f block.role) ++ change f)
      (⟨block.role, rows⟩ :: found) where
  pieces := by rw [List.map_cons, RowPiece.piece, hblock.text, hall.pieces]
  laid := List.forall_mem_cons.mpr ⟨isLaid_of_shows hblock, hall.laid⟩
  markers f := by rw [List.flatMap_cons, hblock.markers, hall.markers]

private theorem itemMark_eq (ordered : Bool) (number : Nat) :
    Markdown.itemMark ordered number =
      Marker.text { number := if ordered then some number else none, listed := true } := by
  cases ordered <;> rfl

mutual
/-- The rows of a block show its text. -/
theorem shows_rows (config : Config) (tool : String) (state : EmitState) (block : Block)
    (text : String) (h : (block.emit config state).eval tool = .ok text) :
    Shows state.listDepth text (block.markers config) (block.rows config tool state) := by
  match block with
  | .leaf content =>
    rw [emit] at h
    rw [rows, markers, Emission.written_eq h]
    exact shows_plain _ _
  | .container head children =>
    have hwritten := Emission.written_eq h
    rw [emit] at h
    obtain ⟨frame, hframe, h⟩ := Markdown.exists_of_eval_bind h
    obtain ⟨pieces, hpieces, hfinish⟩ := Markdown.exists_of_eval_bind h
    obtain ⟨hstate, hgap⟩ := Container.frame_eq hframe
    rw [hstate] at hpieces
    have hall := showsAll_rowsSequence config tool _ false children pieces hpieces
    rw [rows, markers, hwritten]
    cases hbelow : head.below? with
    | none => exact shows_plain _ _
    | some below =>
      -- The text is given; what counts is where the lines of the children stand in it.
      rw [Container.listDepth_innerState hbelow] at hall
      exact (hall.stack hgap).surround (Container.surrounds_finish hframe hfinish hbelow)
  | .item children =>
    rw [emit] at h
    obtain ⟨pieces, hpieces, h⟩ := Markdown.exists_of_eval_bind h
    cases h
    have hall := showsAll_rowsSequence config tool _ false children pieces hpieces
    rw [rows, markers]
    exact hall.item { number := none, listed := false } rfl rfl
  | .list ordered start items =>
    rw [emit] at h
    obtain ⟨texts, htexts, h⟩ := Markdown.exists_of_eval_bind h
    cases h
    obtain ⟨rfl, hlaid, hmarkers⟩ :=
      showsEach_rowsItems config tool { state with listDepth := state.listDepth + 1 } _ rfl ordered
        start items texts htexts
    rw [rows, markers, ← hmarkers]
    exact ⟨Row.text_join Row.isGap_nil hlaid, Row.areLaid_join Row.isGap_nil hlaid,
      Row.markers_join Row.isGap_nil _⟩

theorem showsAll_rowsSequence (config : Config) (tool : String) (state : EmitState)
    (afterConditional : Bool) (blocks : List Block) (pieces : List Piece)
    (h : (emitSequence config state afterConditional blocks).eval tool = .ok pieces) :
    ShowsAll state.listDepth pieces (fun change ↦ markersSequence config change blocks)
      (rowsSequence config tool state blocks) := by
  match blocks with
  | [] =>
    cases h
    rw [rowsSequence]
    exact ⟨rfl, List.forall_mem_nil _, fun change ↦ by rw [markersSequence]; rfl⟩
  | block :: rest =>
    rw [emitSequence] at h
    split at h
    · cases h
    obtain ⟨text, htext, h⟩ := Markdown.exists_of_eval_bind h
    have hblock := shows_rows config tool state block text htext
    rw [rowsSequence]
    split at h
    · next hskip =>
      cases h
      simp only [markersSequence, if_pos hskip]
      exact (showsAll_nil _).cons hblock
    · next hskip =>
      obtain ⟨others, hothers, h⟩ := Markdown.exists_of_eval_bind h
      cases h
      simp only [markersSequence, if_neg hskip]
      exact (showsAll_rowsSequence config tool state _ rest others hothers).cons hblock

theorem showsEach_rowsItems (config : Config) (tool : String) (state : EmitState) (outer : Nat)
    (hdepth : state.listDepth = outer + 1) (ordered : Bool) (number : Nat)
    (items : List (List Block)) (texts : List String)
    (h : (emitItems config state ordered number items).eval tool = .ok texts) :
    texts = (rowsItems config tool state ordered number items).map Row.text ∧
      (∀ rows ∈ rowsItems config tool state ordered number items, Row.AreLaid outer rows) ∧
      (rowsItems config tool state ordered number items).flatMap Row.markers =
        markersItems config ordered number items := by
  match items with
  | [] =>
    cases h
    rw [rowsItems, markersItems]
    exact ⟨rfl, List.forall_mem_nil _, rfl⟩
  | blocks :: rest =>
    rw [emitItems] at h
    obtain ⟨pieces, hpieces, h⟩ := Markdown.exists_of_eval_bind h
    have hall := showsAll_rowsSequence config tool state false blocks pieces hpieces
    have hitem := hall.item { number := if ordered then some number else none, listed := true }
      hdepth rfl
    rw [← itemMark_eq] at hitem
    rw [rowsItems, markersItems]
    split at h
    · next hskip =>
      cases h
      rw [if_pos hskip, if_pos hskip, List.append_nil, List.map_singleton, hitem.text,
        List.flatMap_singleton, hitem.markers, List.forall_mem_singleton]
      exact ⟨rfl, hitem.laid, rfl⟩
    · next hskip =>
      obtain ⟨others, hothers, h⟩ := Markdown.exists_of_eval_bind h
      cases h
      obtain ⟨rfl, hlaid, hmarkers⟩ :=
        showsEach_rowsItems config tool state outer hdepth ordered (number + 1) rest _ hothers
      rw [if_neg hskip, if_neg hskip, List.map_cons, hitem.text, List.flatMap_cons, hitem.markers,
        hmarkers, List.forall_mem_cons]
      exact ⟨rfl, ⟨hitem.laid, hlaid⟩, rfl⟩
end

end Block

/-! ## Outermost lists -/

/-- A list in no other list, and the state in which it is written. -/
structure OuterList where
  /-- The number of items around it, up to the nearest agent. -/
  around : Nat
  state : EmitState
  ordered : Bool
  start : Nat
  items : List (List Block)

def OuterList.block (list : OuterList) : Block := .list list.ordered list.start list.items

/-- The number of items around the children: an agent starts anew. Nothing is counted in a list. -/
def Container.innerAround (around : Option Nat) : Container → Option Nat
  | .agentSpawn _ => some 0
  | _ => around

namespace Block

mutual
/-- The outermost lists in a block, with the number of items around the block. -/
def outerLists (config : Config) (state : EmitState) (around : Option Nat) :
    Block → List OuterList
  | .leaf _ => []
  | .container head children =>
    outerListsSequence config (head.innerState state) (head.innerAround around) children
  | .item children =>
    outerListsSequence config { state with listDepth := max state.listDepth 1 }
      (around.map (· + 1)) children
  | .list ordered start items =>
    (around.map fun around ↦ ⟨around, state, ordered, start, items⟩).toList ++
      outerListsItems config { state with listDepth := state.listDepth + 1 } items

def outerListsSequence (config : Config) (state : EmitState) (around : Option Nat) :
    List Block → List OuterList
  | [] => []
  | block :: rest =>
    outerLists config state around block ++
      if config.skipUnreachable && block.exit?.isSome then []
      else outerListsSequence config state around rest

/-- The outermost lists of the agents in the items of a list. -/
def outerListsItems (config : Config) (state : EmitState) : List (List Block) → List OuterList
  | [] => []
  | blocks :: rest =>
    outerListsSequence config state none blocks ++
      if config.skipUnreachable && (firstExit? blocks).isSome then []
      else outerListsItems config state rest
end

/-- The depth in the state is that of a block with so many items around it and no list. -/
def IsOuterDepth (state : EmitState) (around : Option Nat) : Prop :=
  ∀ count, around = some count → state.listDepth = min count 1

/-- The list has a text, and its depth is that of an outermost list. -/
def IsReached (config : Config) (tool : String) (list : OuterList) : Prop :=
  list.state.listDepth = min list.around 1 ∧
    ∃ text, (list.block.emit config list.state).eval tool = .ok text

private theorem isOuterDepth_innerState {state : EmitState} {around : Option Nat}
    (h : IsOuterDepth state around) (head : Container) :
    IsOuterDepth (head.innerState state) (head.innerAround around) := by
  cases head with
  | agentSpawn =>
    intro count hcount
    cases hcount
    rfl
  | _ => exact h

private theorem isOuterDepth_item {state : EmitState} {around : Option Nat}
    (h : IsOuterDepth state around) :
    IsOuterDepth { state with listDepth := max state.listDepth 1 } (around.map (· + 1)) := by
  intro count hcount
  obtain ⟨outer, houter, rfl⟩ := Option.map_eq_some_iff.mp hcount
  have hdepth := h outer houter
  dsimp only
  omega

mutual
theorem isReached_of_mem_outerLists (config : Config) (tool : String) (state : EmitState)
    (around : Option Nat) (hdepth : IsOuterDepth state around) (block : Block) (text : String)
    (h : (block.emit config state).eval tool = .ok text) :
    ∀ list ∈ block.outerLists config state around, IsReached config tool list := by
  match block with
  | .leaf content =>
    rw [outerLists]
    exact List.forall_mem_nil _
  | .container head children =>
    rw [emit] at h
    obtain ⟨frame, hframe, h⟩ := Markdown.exists_of_eval_bind h
    obtain ⟨pieces, hpieces, -⟩ := Markdown.exists_of_eval_bind h
    rw [(Container.frame_eq hframe).1] at hpieces
    rw [outerLists]
    exact isReached_of_mem_outerListsSequence config tool _ _ (isOuterDepth_innerState hdepth head)
      false children pieces hpieces
  | .item children =>
    rw [emit] at h
    obtain ⟨pieces, hpieces, -⟩ := Markdown.exists_of_eval_bind h
    rw [outerLists]
    exact isReached_of_mem_outerListsSequence config tool _ _ (isOuterDepth_item hdepth) false
      children pieces hpieces
  | .list ordered start items =>
    have htext := h
    rw [emit] at h
    obtain ⟨texts, htexts, -⟩ := Markdown.exists_of_eval_bind h
    rw [outerLists, List.forall_mem_append]
    constructor
    · -- The list itself, if it is an outermost one.
      intro list hlist
      obtain ⟨count, hcount, rfl⟩ := Option.map_eq_some_iff.mp (Option.mem_toList.mp hlist)
      exact ⟨hdepth count hcount, text, htext⟩
    · exact isReached_of_mem_outerListsItems config tool _ ordered start items texts htexts

theorem isReached_of_mem_outerListsSequence (config : Config) (tool : String) (state : EmitState)
    (around : Option Nat) (hdepth : IsOuterDepth state around) (afterConditional : Bool)
    (blocks : List Block) (pieces : List Piece)
    (h : (emitSequence config state afterConditional blocks).eval tool = .ok pieces) :
    ∀ list ∈ outerListsSequence config state around blocks, IsReached config tool list := by
  match blocks with
  | [] =>
    rw [outerListsSequence]
    exact List.forall_mem_nil _
  | block :: rest =>
    rw [emitSequence] at h
    split at h
    · cases h
    obtain ⟨text, htext, h⟩ := Markdown.exists_of_eval_bind h
    rw [outerListsSequence, List.forall_mem_append]
    refine ⟨isReached_of_mem_outerLists config tool state around hdepth block text htext, ?_⟩
    split at h
    · next hskip =>
      rw [if_pos hskip]
      exact List.forall_mem_nil _
    · next hskip =>
      obtain ⟨others, hothers, -⟩ := Markdown.exists_of_eval_bind h
      rw [if_neg hskip]
      exact isReached_of_mem_outerListsSequence config tool state around hdepth _ rest others
        hothers

theorem isReached_of_mem_outerListsItems (config : Config) (tool : String) (state : EmitState)
    (ordered : Bool) (number : Nat) (items : List (List Block)) (texts : List String)
    (h : (emitItems config state ordered number items).eval tool = .ok texts) :
    ∀ list ∈ outerListsItems config state items, IsReached config tool list := by
  match items with
  | [] =>
    rw [outerListsItems]
    exact List.forall_mem_nil _
  | blocks :: rest =>
    rw [emitItems] at h
    obtain ⟨pieces, hpieces, h⟩ := Markdown.exists_of_eval_bind h
    rw [outerListsItems, List.forall_mem_append]
    constructor
    · exact isReached_of_mem_outerListsSequence config tool state none nofun false blocks pieces
        hpieces
    · split at h
      · next hskip =>
        rw [if_pos hskip]
        exact List.forall_mem_nil _
      · next hskip =>
        obtain ⟨others, hothers, -⟩ := Markdown.exists_of_eval_bind h
        rw [if_neg hskip]
        exact isReached_of_mem_outerListsItems config tool state ordered _ rest others hothers
end

end Block

/-! ## The indent of a marker -/

namespace Marker

/-- Each item stands in a list that is a block of the item around it, or stands there without a list
at depth one. -/
def isStraight : Nat → List Turn → Bool
  | _, [] => true
  | depth, .list :: trail => isStraight (depth + 1) trail
  | _, .inner :: _ => false
  | depth, .bare :: trail => depth == 1 && isStraight depth trail

private theorem two_mul_length_le_inset {depth : Nat} (hdepth : 0 < depth) (trail : List Turn) :
    2 * trail.length ≤ inset depth trail := by
  induction trail generalizing depth with
  | nil => exact Nat.zero_le _
  | cons turn trail ih =>
    have hpos : 0 < depth + 1 := Nat.succ_pos depth
    have hnext := ih hpos
    have hsame := ih hdepth
    rw [List.length_cons]
    cases turn <;> rw [inset] <;> omega

private theorem inset_eq_iff {depth : Nat} (hdepth : 0 < depth) (trail : List Turn) :
    inset depth trail = 2 * trail.length ↔ isStraight depth trail = true := by
  -- Each turn adds at least two, so nothing makes up for a turn that adds more.
  induction trail generalizing depth with
  | nil => exact iff_of_true rfl rfl
  | cons turn trail ih =>
    have hpos : 0 < depth + 1 := Nat.succ_pos depth
    have hleast := two_mul_length_le_inset hdepth trail
    have hnext := two_mul_length_le_inset hpos trail
    rw [List.length_cons]
    cases turn with
    | list =>
      rw [inset, isStraight, ← ih hpos]
      omega
    | inner =>
      rw [inset, isStraight]
      exact iff_of_false (by omega) Bool.false_ne_true
    | bare =>
      rw [inset, isStraight, Bool.and_eq_true, beq_iff_eq, ← ih hdepth]
      constructor
      · intro h
        have hone : depth = 1 := by omega
        exact ⟨hone, by omega⟩
      · rintro ⟨rfl, h⟩
        omega

end Marker

/-- The number of spaces at the start of the line. -/
def Row.indent (row : Row) : Nat := (row.line.takeWhile (· == ' ')).length

private theorem Row.Fits.indent_eq {outer : Nat} {row : Row} {marker : Marker} (h : row.Fits outer)
    (hmarker : row.marker = some marker) :
    row.indent = marker.column outer ∧ marker.text.toList <+: row.line.drop row.indent := by
  obtain ⟨rest, hline⟩ := h.column marker hmarker
  obtain ⟨c, chars, htext⟩ := List.exists_cons_of_ne_nil marker.text_ne_nil
  have hc : (c == ' ') = false := by
    have hchars := marker.all_isNumberChar_text
    rw [htext, List.all_cons, Bool.and_eq_true] at hchars
    rw [beq_eq_false_iff_ne]
    rintro rfl
    exact absurd hchars.1 (by decide)
  have hindent : row.indent = marker.column outer := by
    rw [indent, hline, htext, List.cons_append, List.takeWhile_append_of_pos (by simp),
      List.takeWhile_cons_of_neg (by simp [hc]), List.append_nil, List.length_replicate]
  refine ⟨hindent, rest, ?_⟩
  rw [hindent, hline, List.drop_left' List.length_replicate]

namespace Document

/-- The outermost lists of a document and of its agents. -/
def outerLists (config : Config) (document : Document) : List OuterList :=
  Block.outerListsSequence config {} (some 0) document.children

theorem isReached_of_mem_outerLists {config : Config} {tool text : String} {document : Document}
    (h : (document.emit config).eval tool = .ok text) :
    ∀ list ∈ document.outerLists config, Block.IsReached config tool list := by
  obtain ⟨parts, -, h⟩ := Markdown.exists_of_eval_bind h
  obtain ⟨pieces, hpieces, -⟩ := Markdown.exists_of_eval_bind h
  refine Block.isReached_of_mem_outerListsSequence config tool {} (some 0) ?_ false
    document.children pieces hpieces
  intro count hcount
  cases hcount
  rfl

/-- **Items are indented by two for each item around them, unless a list stands in another block of
an item.** Let a document be written, and take any of its outermost lists. That list has a text, and
its rows are the lines of the text; they hold the markers of all items in it, in order. In front of
a marker stand the spaces that the way to its item determines. These are two for each item around
it, those around the list included, just if the way is straight: each list on it is a block of the
item around it, and items without a list stand at depth one only. (For the list itself, the second
item without a list around it does not count.) -/
theorem indent_eq_iff_isStraight (emitter : Emitter) (document : Document) (text : String)
    (h : (emitter.emit document).1 = .ok text) (list : OuterList)
    (hlist : list ∈ document.outerLists emitter.config) :
    let rows := list.block.rows emitter.config emitter.config.queryTool list.state
    ∃ written,
      (list.block.emit emitter.config list.state).eval emitter.config.queryTool = .ok written ∧
      rows.map Row.line = Text.splitLines written.toList ∧
      Row.markers rows = list.block.markers emitter.config ∧
      ∀ row ∈ rows, ∀ marker, row.marker = some marker →
        marker.text.toList <+: row.line.drop row.indent ∧
        row.indent = 2 * min list.around 1 +
          Marker.inset (min list.around 1 + 1) marker.trail ∧
        (list.around ≤ 1 → (row.indent = 2 * (list.around + marker.trail.length) ↔
          Marker.isStraight (list.around + 1) marker.trail = true)) := by
  intro rows
  rw [emitter.emit_fst] at h
  obtain ⟨hdepth, written, hwritten⟩ := isReached_of_mem_outerLists h list hlist
  obtain ⟨htext, hlaid, hmarkers⟩ := Block.shows_rows _ _ _ _ _ hwritten
  refine ⟨written, hwritten, hlaid.map_line_eq.trans (by rw [htext]), hmarkers, ?_⟩
  intro row hrow marker hmarker
  obtain ⟨hindent, hmark⟩ := (hlaid.fits row hrow).indent_eq hmarker
  have hlisted : marker.listed = true := by
    have hmem : marker ∈ list.block.markers emitter.config := by
      rw [← hmarkers]
      exact List.mem_filterMap.mpr ⟨row, hrow, hmarker⟩
    rw [OuterList.block, Block.markers] at hmem
    exact Block.listed_of_mem_markersItems hmem
  have hcolumn : row.indent = 2 * min list.around 1 +
      Marker.inset (min list.around 1 + 1) marker.trail := by
    rw [hindent, Marker.column, Marker.depth, if_pos hlisted, hdepth, Nat.add_sub_cancel]
  refine ⟨hmark, hcolumn, fun haround ↦ ?_⟩
  have hpos : 0 < list.around + 1 := Nat.succ_pos _
  rw [hcolumn, Nat.min_eq_left haround, ← Marker.inset_eq_iff hpos]
  omega

/-- Two lists in one item: the one that is a block of the item is indented by two, the one in a
group by four. -/
theorem indent_eq_iff_isStraight_mixed :
    let items : List (List Block) := [[.leaf (.paragraph [.text "a"]),
      .list false 1 [[.leaf (.paragraph [.text "b"])]],
      .container .group [.list false 1 [[.leaf (.paragraph [.text "c"])]]]]]
    let list : OuterList := ⟨0, {}, false, 1, items⟩
    let document : Document := { children := [list.block] }
    let rows := list.block.rows {} "jq" {}
    list ∈ document.outerLists {} ∧
      ∃ text written, (({} : Emitter).emit document).1 = .ok text ∧
        (list.block.emit {} list.state).eval "jq" = .ok written ∧
        rows.map Row.line = Text.splitLines written.toList ∧
        (∀ row ∈ rows, ∀ marker, row.marker = some marker →
          marker.text.toList <+: row.line.drop row.indent) ∧
        rows.map (fun row ↦ (row.indent, row.marker.map Marker.trail)) =
          [(0, some []), (2, some [.list]), (4, some [.inner])] := by
  intro items list document rows
  have hlist : list ∈ document.outerLists {} := List.mem_cons_self
  obtain ⟨text, htext⟩ : ∃ text, (({} : Emitter).emit document).1 = .ok text := ⟨_, rfl⟩
  obtain ⟨written, hwritten, hlines, -, hshown⟩ :=
    indent_eq_iff_isStraight {} document text htext list hlist
  refine ⟨hlist, text, written, htext, hwritten, hlines, ?_, by decide +kernel⟩
  intro row hrow marker hmarker
  exact (hshown row hrow marker hmarker).1

/-- A list in a group: nothing is wrong with the document, and its item is indented by four in the
one item around it. -/
theorem indent_in_group :
    let inner : Block := .list false 1 [[.leaf (.paragraph [.text "x"])]]
    let list : Block := .list false 1 [[.container .group [inner]]]
    let document : Document := { children := [list] }
    document.validate = .ok () ∧
      (({} : Emitter).emit document).1.toOption = some "-\n    - x\n" ∧
      (list.rows {} "jq" {}).map (fun row ↦ (row.indent, row.marker.map Marker.trail)) =
        [(0, some []), (4, some [.inner])] := by
  intro inner list document
  exact ⟨rfl, by decide +kernel, by decide +kernel⟩

end Document

end Runbook
