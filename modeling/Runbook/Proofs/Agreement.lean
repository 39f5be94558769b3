import Runbook.Proofs.Failure

/-!
# The check and emission agree

The check and the writer walk through a document on their own. Here their walks are compared: an
error of the writer that says that the document should have been rejected is always announced by a
finding (`Block.causedBy_of_emit`), and with nothing left out, a document that is written has no
finding that the writer relies on (`Block.not_reported_of_emit`). What remains between the two is
that the writer stops at its first error, which can be one of the others: data without a JSON or
YAML text, or a text that is too long. `Document.Fits` rules out the latter and what the
configuration or the frontmatter can add to the former.
-/

namespace Runbook

open Markdown

/-! ## Findings that the writer relies on -/

namespace Block

/-- A violation that emission would trip over is among the findings. -/
def Reported (findings : List Finding) : Prop := ∃ finding ∈ findings, finding.violation.Trips

@[simp]
theorem not_reported_nil : ¬Reported [] := by
  simp [Reported]

@[simp]
theorem reported_append (findings others : List Finding) :
    Reported (findings ++ others) ↔ Reported findings ∨ Reported others := by
  simp [Reported, or_and_right, exists_or]

private theorem not_trips_breakViolations (block : Block) (inLoop : Bool) :
    ∀ violation ∈ block.breakViolations inLoop, ¬violation.Trips := by
  intro violation hviolation
  rw [breakViolations] at hviolation
  split at hviolation
  · rw [List.mem_singleton.mp hviolation]
    exact Violation.not_trips_breakOutsideLoop
  · exact absurd hviolation List.not_mem_nil

/-- The writer relies on the place of an else-branch and on slots, and not on that of a break. -/
theorem reported_findings_iff (block : Block) (path : TreePath) (previous : Option Kind)
    (inLoop : Bool) :
    Reported (block.findings path previous inLoop) ↔
      (block.kind = .elseBranch ∧ previous ≠ some .conditional) ∨
        ∃ violation ∈ block.slotViolations, violation.Trips := by
  have hreported : Reported (block.findings path previous inLoop) ↔
      ∃ violation ∈ block.violations previous inLoop, violation.Trips := by
    constructor
    · rintro ⟨_, hmem, htrips⟩
      obtain ⟨violation, hviolation, rfl⟩ := List.mem_map.mp hmem
      exact ⟨violation, hviolation, htrips⟩
    · rintro ⟨violation, hviolation, htrips⟩
      exact ⟨_, List.mem_map_of_mem hviolation, htrips⟩
  rw [hreported]
  constructor
  · rintro ⟨violation, hviolation, htrips⟩
    rw [violations, List.mem_append, List.mem_append] at hviolation
    rcases hviolation with (helse | hslot) | hbreak
    · rw [elseViolations] at helse
      split at helse
      · next hdangling => exact .inl hdangling
      · exact absurd helse List.not_mem_nil
    · exact .inr ⟨violation, hslot, htrips⟩
    · exact absurd htrips (not_trips_breakViolations block inLoop violation hbreak)
  · rintro (hdangling | ⟨violation, hslot, htrips⟩)
    · refine ⟨.danglingElse previous, ?_, .inl rfl⟩
      rw [violations, elseViolations, if_pos hdangling]
      exact List.mem_append_left _ List.mem_cons_self
    · exact ⟨violation, List.mem_append_left _ (List.mem_append_right _ hslot), htrips⟩

/-! ## Errors of the writer -/

/-- Something is in the way of writing the blocks, apart from what the check looks at. -/
def Unwritable (positions : List (TreePath × Block)) : Prop :=
  ∃ position ∈ positions, ¬(position.2.Serializable ∧ position.2.Fits)

/-- The findings on blocks and the positions of these blocks give reason for the error. -/
structure CausedBy (config : Config) (error : EmitError) (findings : List Finding)
    (positions : List (TreePath × Block)) : Prop where
  reported : error.isInvariant = true → Reported findings
  unwritable : error.isInvariant = false → config.CanIndent → Unwritable positions

variable {config : Config} {error : EmitError} {path : TreePath} {previous : Option Kind}
  {inLoop : Bool}

theorem CausedBy.mono {findings more : List Finding} {positions others : List (TreePath × Block)}
    (h : CausedBy config error findings positions) (hfindings : findings ⊆ more)
    (hpositions : positions ⊆ others) : CausedBy config error more others where
  reported hinvariant :=
    let ⟨finding, hmem, htrips⟩ := h.reported hinvariant
    ⟨finding, hfindings hmem, htrips⟩
  unwritable hinvariant hindent :=
    let ⟨position, hmem, hwritable⟩ := h.unwritable hinvariant hindent
    ⟨position, hpositions hmem, hwritable⟩

/-- A reason below a node is one for the node. -/
theorem CausedBy.below {findings : List Finding} {positions : List (TreePath × Block)}
    (h : CausedBy config error findings positions) (own : List Finding)
    (position : TreePath × Block) :
    CausedBy config error (own ++ findings) (position :: positions) :=
  h.mono (List.subset_append_right _ _) (List.subset_cons_self _ _)

private theorem CausedBy.append_right {findings : List Finding}
    {positions : List (TreePath × Block)} (h : CausedBy config error findings positions)
    (more : List Finding) (others : List (TreePath × Block)) :
    CausedBy config error (findings ++ more) (positions ++ others) :=
  h.mono (List.subset_append_left _ _) (List.subset_append_left _ _)

theorem CausedBy.append_left {findings : List Finding} {positions : List (TreePath × Block)}
    (h : CausedBy config error findings positions) (more : List Finding)
    (others : List (TreePath × Block)) :
    CausedBy config error (more ++ findings) (others ++ positions) :=
  h.mono (List.subset_append_right _ _) (List.subset_append_right _ _)

private theorem self_mem_walk (path : TreePath) (block : Block) :
    (path, block) ∈ block.walk path := by
  cases block <;> simp [walk]

private theorem findings_subset_errors (block : Block) :
    block.findings path previous inLoop ⊆ block.errors path previous inLoop := by
  cases block <;> simp [errors]

private theorem reported_errors_of_findings {block : Block}
    (h : Reported (block.findings path previous inLoop)) :
    Reported (block.errors path previous inLoop) :=
  let ⟨finding, hmem, htrips⟩ := h
  ⟨finding, findings_subset_errors block hmem, htrips⟩

private theorem Causes.causedBy {block : Block} (h : block.Causes config error) :
    CausedBy config error (block.errors path previous inLoop) (block.walk path) := by
  rcases h with ⟨hinvariant, hslot⟩ | ⟨hinvariant, hwritable⟩
  · refine ⟨fun _ ↦ ?_, fun hother ↦ Bool.noConfusion (hinvariant.symm.trans hother)⟩
    exact reported_errors_of_findings ((reported_findings_iff ..).mpr (.inr hslot))
  · refine ⟨fun hother ↦ Bool.noConfusion (hinvariant.symm.trans hother), fun _ hindent ↦ ?_⟩
    exact ⟨(path, block), self_mem_walk path block, hwritable hindent⟩

/-- An else-branch that emission refuses is reported. -/
theorem reported_of_dangling {block : Block} {afterConditional : Bool}
    (hafter : afterConditional = (previous == some .conditional))
    (h : block.kind = .elseBranch ∧ afterConditional = false) :
    Reported (block.errors path previous inLoop) := by
  have hprevious : previous ≠ some .conditional := by
    have hfalse := hafter.symm.trans h.2
    simpa using hfalse
  exact reported_errors_of_findings ((reported_findings_iff ..).mpr (.inl ⟨h.1, hprevious⟩))

-- For each of the three writers: an error comes from a block that was written.
mutual
theorem causedBy_of_emit (path : TreePath) (previous : Option Kind) (inLoop : Bool)
    (state : EmitState) (block : Block)
    (h : (block.emit config state).Yields (.error error)) :
    CausedBy config error (block.errors path previous inLoop) (block.walk path) := by
  match block with
  | .leaf content =>
    rw [emit] at h
    exact (Leaf.causes_of_yields_error h).causedBy
  | .container head children =>
    rw [emit, Emission.yields_bind_error] at h
    rcases h with hhead | ⟨frame, hframe, h⟩
    · exact (Container.causes_of_frame hhead children).causedBy
    · rcases (Emission.yields_bind_error ..).mp h with hbody | ⟨pieces, -, hfinish⟩
      · rw [errors, walk]
        exact (causedBy_of_emitSequence path 0 none (head.holdsLoop inLoop) frame.state false rfl
          children hbody).below _ _
      · exact (Container.causes_of_finish hframe hfinish children).causedBy
  | .item children =>
    rw [emit] at h
    rw [errors, walk]
    exact (causedBy_of_emitSequence path 0 none inLoop _ false rfl children
      ((Emission.yields_map_error ..).mp h)).below _ _
  | .list ordered start items =>
    rw [emit] at h
    rw [errors, walk]
    exact (causedBy_of_emitItems path 0 inLoop _ ordered start items
      ((Emission.yields_map_error ..).mp h)).below _ _

theorem causedBy_of_emitSequence (parent : TreePath) (index : Nat) (previous : Option Kind)
    (inLoop : Bool) (state : EmitState) (afterConditional : Bool)
    (hafter : afterConditional = (previous == some .conditional)) (blocks : List Block)
    (h : (emitSequence config state afterConditional blocks).Yields (.error error)) :
    CausedBy config error (errorsFrom parent index previous inLoop blocks)
      (walkFrom parent index blocks) := by
  match blocks with
  | [] => rw [emitSequence] at h; simp at h
  | block :: rest =>
    rw [emitSequence] at h
    rw [errorsFrom, walkFrom]
    split at h
    · next hdangling =>
      obtain rfl : error = .danglingElse := by simpa using h
      have hblock : CausedBy config .danglingElse
          (block.errors (parent ++ [index]) previous inLoop) (block.walk (parent ++ [index])) :=
        ⟨fun _ ↦ reported_of_dangling hafter hdangling, nofun⟩
      exact hblock.append_right _ _
    · rcases (Emission.yields_bind_error ..).mp h with h | ⟨text, -, h⟩
      · exact (causedBy_of_emit (parent ++ [index]) previous inLoop state block h).append_right _ _
      · split at h
        · simp at h
        · exact (causedBy_of_emitSequence parent (index + 1) (some block.kind) inLoop state _
            (by simp) rest ((Emission.yields_map_error ..).mp h)).append_left _ _

theorem causedBy_of_emitItems (parent : TreePath) (index : Nat) (inLoop : Bool)
    (state : EmitState) (ordered : Bool) (number : Nat) (items : List (List Block))
    (h : (emitItems config state ordered number items).Yields (.error error)) :
    CausedBy config error (itemErrors parent index inLoop items)
      (walkItems parent index items) := by
  match items with
  | [] => rw [emitItems] at h; simp at h
  | blocks :: rest =>
    rw [emitItems, Emission.yields_bind_error] at h
    rw [itemErrors, walkItems]
    rcases h with hblocks | ⟨pieces, -, h⟩
    · have hitem := causedBy_of_emitSequence (parent ++ [index]) 0 none inLoop state false rfl
        blocks hblocks
      exact (hitem.below [] (parent ++ [index], .item blocks)).append_right _ _
    · split at h
      · simp at h
      · exact (causedBy_of_emitItems parent (index + 1) inLoop state ordered (number + 1) rest
          ((Emission.yields_map_error ..).mp h)).append_left _ _
end

/-! ## Documents that are written -/

-- With nothing left out, the writer goes through every block that the check goes through. The place
-- of a block is checked by the sequence around it, so that is assumed here of a single block.
mutual
theorem not_reported_of_emit (hskip : config.skipUnreachable = false) (path : TreePath)
    (previous : Option Kind) (inLoop : Bool) (state : EmitState) (block : Block) (text : String)
    (hplace : ¬(block.kind = .elseBranch ∧ previous ≠ some .conditional))
    (h : (block.emit config state).Yields (.ok text)) :
    ¬Reported (block.errors path previous inLoop) := by
  match block with
  | .leaf content =>
    rw [emit] at h
    rw [errors, reported_findings_iff, not_or]
    exact ⟨hplace, fun ⟨violation, hslot, htrips⟩ ↦
      Leaf.not_trips_of_yields_ok h violation hslot htrips⟩
  | .container head children =>
    simp only [emit, Emission.yields_bind_ok] at h
    obtain ⟨frame, hframe, pieces, hpieces, hfinish⟩ := h
    rw [errors, reported_append, reported_findings_iff, not_or, not_or]
    refine ⟨⟨hplace, fun ⟨violation, hslot, htrips⟩ ↦
      Container.not_trips_of_yields_ok hframe hfinish violation hslot htrips⟩, ?_⟩
    exact not_reported_of_emitSequence hskip path 0 none _ frame.state false rfl children pieces
      hpieces
  | .item children =>
    rw [emit] at h
    obtain ⟨pieces, hpieces, -⟩ := (Emission.yields_map_ok ..).mp h
    rw [errors, reported_append, reported_findings_iff, not_or, not_or]
    refine ⟨⟨hplace, by simp [slotViolations]⟩, ?_⟩
    exact not_reported_of_emitSequence hskip path 0 none inLoop _ false rfl children pieces hpieces
  | .list ordered start items =>
    rw [emit] at h
    obtain ⟨texts, htexts, -⟩ := (Emission.yields_map_ok ..).mp h
    rw [errors, reported_append, reported_findings_iff, not_or, not_or]
    refine ⟨⟨hplace, by simp [slotViolations]⟩, ?_⟩
    exact not_reported_of_emitItems hskip path 0 inLoop _ ordered start items texts htexts

theorem not_reported_of_emitSequence (hskip : config.skipUnreachable = false) (parent : TreePath)
    (index : Nat) (previous : Option Kind) (inLoop : Bool) (state : EmitState)
    (afterConditional : Bool) (hafter : afterConditional = (previous == some .conditional))
    (blocks : List Block) (pieces : List Piece)
    (h : (emitSequence config state afterConditional blocks).Yields (.ok pieces)) :
    ¬Reported (errorsFrom parent index previous inLoop blocks) := by
  match blocks with
  | [] => rw [errorsFrom]; exact not_reported_nil
  | block :: rest =>
    rw [emitSequence] at h
    split at h
    · simp at h
    · next hdangling =>
      simp only [hskip, Bool.false_and, Bool.false_eq_true, if_false,
        Emission.yields_bind_ok] at h
      obtain ⟨text, htext, others, hothers, -⟩ := h
      rw [errorsFrom, reported_append, not_or]
      constructor
      · refine not_reported_of_emit hskip _ previous inLoop state block text ?_ htext
        rintro ⟨hkind, hprevious⟩
        exact hdangling ⟨hkind, by simpa [hafter] using hprevious⟩
      · exact not_reported_of_emitSequence hskip parent (index + 1) (some block.kind) inLoop state
          _ (by simp) rest others hothers

theorem not_reported_of_emitItems (hskip : config.skipUnreachable = false) (parent : TreePath)
    (index : Nat) (inLoop : Bool) (state : EmitState) (ordered : Bool) (number : Nat)
    (items : List (List Block)) (texts : List String)
    (h : (emitItems config state ordered number items).Yields (.ok texts)) :
    ¬Reported (itemErrors parent index inLoop items) := by
  match items with
  | [] => rw [itemErrors]; exact not_reported_nil
  | blocks :: rest =>
    simp only [emitItems, hskip, Bool.false_and, Bool.false_eq_true, if_false,
      Emission.yields_bind_ok] at h
    obtain ⟨pieces, hpieces, others, hothers, -⟩ := h
    rw [itemErrors, reported_append, not_or]
    constructor
    · exact not_reported_of_emitSequence hskip _ 0 none inLoop state false rfl blocks pieces hpieces
    · exact not_reported_of_emitItems hskip parent (index + 1) inLoop state ordered _ rest others
        hothers
end

end Block

/-! ## Frontmatter -/

namespace Datum

variable {error : EmitError}

-- All expressions are asked for, whether the data can be written or not.
mutual
theorem not_yields_error_resolve (datum : Datum) : ¬datum.resolve.Yields (.error error) := by
  match datum with
  | .list items | .tuple items =>
    rw [resolve]
    exact fun h ↦ not_yields_error_resolveItems items ((Emission.yields_map_error ..).mp h)
  | .map entries =>
    rw [resolve]
    exact fun h ↦ not_yields_error_resolveEntries entries ((Emission.yields_map_error ..).mp h)
  | .null | .bool _ | .int _ | .float _ | .text _ | .staged _ | .member _ => simp [resolve]

theorem not_yields_error_resolveItems (items : List Datum) :
    ¬(resolveItems items).Yields (.error error) := by
  match items with
  | [] => simp [resolveItems]
  | item :: rest =>
    rw [resolveItems, Emission.yields_bind_error]
    rintro (h | ⟨_, -, h⟩)
    · exact not_yields_error_resolve item h
    · exact not_yields_error_resolveItems rest ((Emission.yields_map_error ..).mp h)

theorem not_yields_error_resolveEntries (entries : List (DatumKey × Datum)) :
    ¬(resolveEntries entries).Yields (.error error) := by
  match entries with
  | [] => simp [resolveEntries]
  | (key, item) :: rest =>
    rw [resolveEntries, Emission.yields_bind_error]
    rintro (h | ⟨_, -, h⟩)
    · exact not_yields_error_resolve item h
    · exact not_yields_error_resolveEntries rest ((Emission.yields_map_error ..).mp h)
end

end Datum

namespace Markdown

variable {error : EmitError}

theorem not_yields_error_resolve (data : Frontmatter) : ¬data.resolve.Yields (.error error) := by
  induction data with
  | nil => simp [Frontmatter.resolve]
  | cons entry rest ih =>
    rw [Frontmatter.resolve, Emission.yields_bind_error]
    rintro (h | ⟨_, -, h⟩)
    · exact entry.2.not_yields_error_resolve h
    · exact ih ((Emission.yields_map_error ..).mp h)

private theorem yields_error_frontmatterParts {frontmatter : Option Frontmatter}
    (h : (frontmatterParts frontmatter).Yields (.error error)) :
    error = .unwritable ∧ Frontmatter.isWritable (frontmatter.getD []) = false := by
  rw [frontmatterParts] at h
  split at h
  · simp at h
  · have hdata := (Emission.yields_map_error ..).mp h
    rw [emitFrontmatter, Emission.yields_bind_error] at hdata
    rcases hdata with hdata | ⟨entries, -, hdata⟩
    · exact absurd hdata (not_yields_error_resolve _)
    · split at hdata
      · simp at hdata
      · next hwritable => exact ⟨by simpa using hdata, Bool.eq_false_iff.mpr hwritable⟩

end Markdown

/-! ## Documents -/

namespace Document

/-- The data that is written as JSON is serializable in every block. -/
def Serializable (document : Document) : Prop :=
  ∀ position ∈ document.walkBlocks, position.2.Serializable

/-- Nothing but findings and unserializable data is in the way of writing the document. -/
structure Fits (config : Config) (document : Document) : Prop where
  indent : config.CanIndent
  frontmatter : Frontmatter.isWritable (document.frontmatter.getD []) = true
  blocks : ∀ position ∈ document.walkBlocks, position.2.Fits

variable {config : Config} {document : Document} {error : EmitError}

private theorem yields_error_emit (h : (document.emit config).Yields (.error error)) :
    (error = .unwritable ∧ Frontmatter.isWritable (document.frontmatter.getD []) = false) ∨
      Block.CausedBy config error document.errors document.walkBlocks := by
  rw [emit, Emission.yields_bind_error] at h
  rcases h with h | ⟨parts, -, h⟩
  · exact .inl (yields_error_frontmatterParts h)
  · exact .inr (Block.causedBy_of_emitSequence [] 0 none false {} false rfl document.children
      ((Emission.yields_map_error ..).mp h))

private theorem reported_of_isInvariant (h : (document.emit config).Yields (.error error))
    (hinvariant : error.isInvariant = true) : Block.Reported document.errors := by
  rcases yields_error_emit h with ⟨rfl, -⟩ | hcause
  · exact absurd hinvariant nofun
  · exact hcause.reported hinvariant

private theorem isInvariant_of_fits (h : (document.emit config).Yields (.error error))
    (hserializable : document.Serializable) (hfits : document.Fits config) :
    error.isInvariant = true := by
  rcases yields_error_emit h with ⟨-, hunwritable⟩ | hcause
  · exact absurd (hunwritable.symm.trans hfits.frontmatter) Bool.false_ne_true
  · cases hinvariant : error.isInvariant with
    | true => rfl
    | false =>
      obtain ⟨position, hmem, hblock⟩ := hcause.unwritable hinvariant hfits.indent
      exact absurd ⟨hserializable position hmem, hfits.blocks position hmem⟩ hblock

theorem not_reported_of_emit {text : String} (hskip : config.skipUnreachable = false)
    (h : (document.emit config).Yields (.ok text)) : ¬Block.Reported document.errors := by
  rw [emit, Emission.yields_bind_ok] at h
  obtain ⟨parts, -, h⟩ := h
  obtain ⟨pieces, hpieces, -⟩ := (Emission.yields_map_ok ..).mp h
  exact Block.not_reported_of_emitSequence hskip [] 0 none false {} false rfl document.children
    pieces hpieces

/-- **The check and emission agree.** Whatever the cache holds: if the check finds nothing, emission
does not say that the document should have been rejected; if emission says so, the check has found
a dangling else-branch or a mismatched slot. With nothing left out, every such finding makes
emission fail; and if the data is serializable and the texts fit, it fails by saying that the
document should have been rejected exactly if there is such a finding. -/
theorem isInvariant_run_emit_iff (config : Config) (cache : Cache) (document : Document) :
    let written := ((document.emit config).run config.queryTool cache).1
    (document.errors = [] → ∀ error, written = .error error → error.isInvariant = false) ∧
      (∀ error, written = .error error → error.isInvariant = true →
        ∃ finding ∈ document.errors, finding.violation.Trips) ∧
      (config.skipUnreachable = false →
        ((∃ finding ∈ document.errors, finding.violation.Trips) →
          ∃ error, written = .error error) ∧
        (document.Serializable → document.Fits config →
          ((∃ error, written = .error error ∧ error.isInvariant = true) ↔
            ∃ finding ∈ document.errors, finding.violation.Trips))) := by
  intro written
  have hyields : (document.emit config).Yields written := Emission.yields_run ..
  have hreported : ∀ error, written = .error error → error.isInvariant = true →
      Block.Reported document.errors := fun error herror ↦
    reported_of_isInvariant (herror ▸ hyields)
  have hfails : config.skipUnreachable = false → Block.Reported document.errors →
      ∃ error, written = .error error := by
    intro hskip hfound
    cases hwritten : written with
    | error error => exact ⟨error, rfl⟩
    | ok text => exact absurd hfound (not_reported_of_emit hskip (hwritten ▸ hyields))
  refine ⟨?_, hreported, fun hskip ↦ ⟨hfails hskip, fun hserializable hfits ↦ ⟨?_, ?_⟩⟩⟩
  · intro hclean error herror
    cases hinvariant : error.isInvariant with
    | false => rfl
    | true =>
      have hfound := hreported error herror hinvariant
      rw [hclean] at hfound
      exact absurd hfound Block.not_reported_nil
  · rintro ⟨error, herror, hinvariant⟩
    exact hreported error herror hinvariant
  · intro hfound
    obtain ⟨error, herror⟩ := hfails hskip hfound
    exact ⟨error, herror, isInvariant_of_fits (herror ▸ hyields) hserializable hfits⟩

/-- An else-branch that begins an item, behind an agent with input; and one in its place. -/
theorem isInvariant_run_emit_iff_item :
    let spawn : Spawn :=
      { agent := "a", model := "m", description := "d", input := .mapping [(.text "k", .int 1)] }
    let document : Document :=
      { frontmatter := some [("name", .text "x")]
        children := [.container (.indent 2) [.container (.agentSpawn spawn) []],
          .list true 1 [[.container .elseBranch []]]] }
    let placed : Document :=
      { children := [.container (.conditional (.bool true)) [], .container .elseBranch []] }
    let config : Config := { skipUnreachable := false }
    (document.Serializable ∧ document.Fits config ∧
      ∃ error, ((document.emit config).run config.queryTool {}).1 = .error error ∧
        error.isInvariant = true) ∧
      placed.errors = [] ∧
      ∀ error, ((placed.emit config).run config.queryTool {}).1 = .error error →
        error.isInvariant = false := by
  intro spawn document placed config
  have hserializable : document.Serializable := by
    simp [Serializable, document, walkBlocks, Block.walkFrom, Block.walk, Block.walkItems,
      Block.Serializable, spawn, Value.isSerializable, Value.hasSerializable]
  have hfits : document.Fits config := by
    refine ⟨⟨2, rfl, by decide⟩, rfl, ?_⟩
    simp [document, walkBlocks, Block.walkFrom, Block.walk, Block.walkItems, Block.Fits,
      show 2 < Emission.lengthLimit by decide]
  obtain ⟨-, -, hagree⟩ := isInvariant_run_emit_iff config {} document
  obtain ⟨hclean, -⟩ := isInvariant_run_emit_iff config {} placed
  refine ⟨⟨hserializable, hfits, ((hagree rfl).2 hserializable hfits).mpr ?_⟩, rfl, hclean rfl⟩
  exact ⟨⟨[1, 0, 0], .elseBranch, .danglingElse none⟩, List.mem_singleton_self _, .inl rfl⟩

/-- Without the limits they would not: a run of blanks that is too long fails before the writer
comes to an else-branch that the check reports. -/
theorem run_emit_wide_indent :
    let document : Document :=
      { children := [.container (.indent (Nat.pow 2 63)) [], .container .elseBranch []] }
    let config : Config := { skipUnreachable := false }
    let written := ((document.emit config).run config.queryTool {}).1
    document.Serializable ∧
      ¬((∃ error, written = .error error ∧ error.isInvariant = true) ↔
        ∃ finding ∈ document.errors, finding.violation.Trips) := by
  intro document config written
  have hwritten : written = .error .lengthOverflow := rfl
  refine ⟨?_, fun hagree ↦ ?_⟩
  · simp [Serializable, document, walkBlocks, Block.walkFrom, Block.walk, Block.Serializable]
  · obtain ⟨error, herror, hinvariant⟩ := hagree.mpr
      ⟨⟨[1], .elseBranch, .danglingElse (some .indent)⟩, List.mem_singleton_self _, .inl rfl⟩
    obtain rfl := Except.error.inj (hwritten.symm.trans herror)
    exact absurd hinvariant Bool.false_ne_true

end Document

end Runbook
