import Runbook.Markdown.Block

/-!
# How emissions can end

An emission asks for expressions and goes on with the answers. `Emission.Yields` says that it ends
with a result for some answers. Both ways to execute an emission, with a cache and without, end with
a result that it yields, so what is shown of all yielded results holds of either.

An emission made of two parts fails if the first part fails, or the first returns and the second
fails (`yields_bind_error`); it returns if both do (`yields_bind_ok`). With these two equivalences
the simplifier takes a writer apart into the places where it can fail at all. Most writers have no
such place: the lemmas `not_yields_error_…` record that for everything that only asks and joins
texts.
-/

namespace Runbook

namespace Emission

variable {α β : Type}

/-- For some answers, the emission ends with the result. -/
def Yields : Emission α → Except EmitError α → Prop
  | .done value, result => result = .ok value
  | .fail error, result => result = .error error
  | .ask _ next, result => ∃ text, (next text).Yields result

@[simp]
theorem yields_done (value : α) (result : Except EmitError α) :
    (Emission.done value).Yields result ↔ result = .ok value := Iff.rfl

@[simp]
theorem yields_fail (error : EmitError) (result : Except EmitError α) :
    (Emission.fail error).Yields result ↔ result = .error error := Iff.rfl

@[simp]
theorem yields_bind_ok (emission : Emission α) (f : α → Emission β) (value : β) :
    (emission >>= f).Yields (.ok value) ↔
      ∃ middle, emission.Yields (.ok middle) ∧ (f middle).Yields (.ok value) := by
  induction emission with
  | done middle => simp
  | fail error => simp
  | ask lookup next ih =>
    simp only [ask_bind, Yields, ih]
    exact ⟨fun ⟨text, middle, h, hf⟩ ↦ ⟨middle, ⟨text, h⟩, hf⟩,
      fun ⟨middle, ⟨text, h⟩, hf⟩ ↦ ⟨text, middle, h, hf⟩⟩

@[simp]
theorem yields_bind_error (emission : Emission α) (f : α → Emission β) (error : EmitError) :
    (emission >>= f).Yields (.error error) ↔
      emission.Yields (.error error) ∨
        ∃ middle, emission.Yields (.ok middle) ∧ (f middle).Yields (.error error) := by
  induction emission with
  | done middle => simp
  | fail other => simp
  | ask lookup next ih =>
    simp only [ask_bind, Yields, ih]
    constructor
    · rintro ⟨text, h | ⟨middle, h, hf⟩⟩
      · exact .inl ⟨text, h⟩
      · exact .inr ⟨middle, ⟨text, h⟩, hf⟩
    · rintro (⟨text, h⟩ | ⟨middle, ⟨text, h⟩, hf⟩)
      · exact ⟨text, .inl h⟩
      · exact ⟨text, .inr ⟨middle, h, hf⟩⟩

/-- What is done with a result afterwards cannot fail if it only computes. -/
theorem yields_map_error (emission : Emission α) (f : α → β) (error : EmitError) :
    (emission >>= fun value ↦ .done (f value)).Yields (.error error) ↔
      emission.Yields (.error error) := by
  simp

theorem yields_map_ok (emission : Emission α) (f : α → β) (result : β) :
    (emission >>= fun value ↦ .done (f value)).Yields (.ok result) ↔
      ∃ value, emission.Yields (.ok value) ∧ result = f value := by
  simp

/-- A run ends with a result that the emission yields, whatever is in the cache. -/
theorem yields_run (tool : String) (cache : Cache) (emission : Emission α) :
    emission.Yields (emission.run tool cache).1 := by
  induction emission generalizing cache with
  | done value => exact rfl
  | fail error => exact rfl
  | ask lookup next ih => exact ⟨(cache.find tool lookup).1, ih _ _⟩

/-! ## Emissions that never fail -/

@[simp]
theorem not_yields_error_raw (value : Staged) (error : EmitError) :
    ¬(raw value).Yields (.error error) := by
  rintro ⟨text, h⟩
  exact absurd h nofun

@[simp]
theorem not_yields_error_json (value : Staged) (error : EmitError) :
    ¬(json value).Yields (.error error) := by
  rintro ⟨text, h⟩
  exact absurd h nofun

@[simp]
theorem not_yields_error_content (slot : Content) (error : EmitError) :
    ¬(content slot).Yields (.error error) := by
  cases slot <;> simp [content]

end Emission

namespace Inline

mutual
@[simp]
theorem not_yields_error_emit (node : Inline) (error : EmitError) :
    ¬node.emit.Yields (.error error) := by
  match node with
  | .text value => simp [emit]
  | .staged value => simp [emit]
  | .bold children => simp [emit, not_yields_error_emitAll children error]
  | .italic children => simp [emit, not_yields_error_emitAll children error]
  | .code content => simp [emit]
  | .link url children => simp [emit, not_yields_error_emitAll children error]
  | .lineBreak => simp [emit]

@[simp]
theorem not_yields_error_emitAll (nodes : List Inline) (error : EmitError) :
    ¬(emitAll nodes).Yields (.error error) := by
  match nodes with
  | [] => simp [emitAll]
  | node :: rest =>
    simp [emitAll, not_yields_error_emit node error, not_yields_error_emitAll rest error]
end

end Inline

namespace Condition

mutual
@[simp]
theorem not_yields_error_render (condition : Condition) (error : EmitError) :
    ¬condition.render.Yields (.error error) := by
  match condition with
  | .literal value => simp [render]
  | .ref value => simp [render]
  | .not operand => simp [render, not_yields_error_render operand error]
  | .all operands => simp [render, not_yields_error_renderEach operands error]
  | .any operands => simp [render, not_yields_error_renderEach operands error]
  | .compare op left right => cases right <;> simp [render, Operand.render]
  | .shellTest test => simp [render]

@[simp]
theorem not_yields_error_renderEach (conditions : List Condition) (error : EmitError) :
    ¬(renderEach conditions).Yields (.error error) := by
  match conditions with
  | [] => simp [renderEach]
  | condition :: rest =>
    simp [renderEach, not_yields_error_render condition error,
      not_yields_error_renderEach rest error]
end

end Condition

namespace Markdown

variable (error : EmitError)

@[simp]
theorem not_yields_error_contents (slots : List Content) :
    ¬(contents slots).Yields (.error error) := by
  induction slots with
  | nil => simp [contents]
  | cons slot rest ih => simp [contents, ih]

@[simp]
theorem not_yields_error_tableRows (width : Nat) (emptyCell : String)
    (rows : List (List Content)) : ¬(tableRows width emptyCell rows).Yields (.error error) := by
  induction rows with
  | nil => simp [tableRows]
  | cons cells rest ih => simp [tableRows, tableRow, ih]

@[simp]
theorem not_yields_error_emitTable (table : Table) :
    ¬(emitTable table).Yields (.error error) := by
  have hheaders : ∀ width, ¬(headerRows width table).Yields (.error error) := by
    intro width
    rw [headerRows]
    split <;> simp
  rw [emitTable]
  split <;> simp [hheaders]

@[simp]
theorem not_yields_error_criterionLines (criteria : List Criterion) :
    ¬(criterionLines criteria).Yields (.error error) := by
  induction criteria with
  | nil => simp [criterionLines]
  | cons criterion rest ih => simp [criterionLines, criterionLine, ih]

@[simp]
theorem not_yields_error_labelled (label : String) (message : Option Content) :
    ¬(labelled label message).Yields (.error error) := by
  cases message <;> simp [labelled]

@[simp]
theorem not_yields_error_attributesText (attrs : List (String × Content)) :
    ¬(attributesText attrs).Yields (.error error) := by
  induction attrs with
  | nil => simp [attributesText]
  | cons entry rest ih => simp [attributesText, ih]

@[simp]
theorem not_yields_error_fillMarkers (leaves : List Staged) (index : Nat) (text : List Char) :
    ¬(fillMarkers index text leaves).Yields (.error error) := by
  induction leaves generalizing index text with
  | nil => simp [fillMarkers]
  | cons leaf rest ih => simp [fillMarkers, ih]

@[simp]
theorem not_yields_error_spliceShell (leaves : List Staged) (index : Nat) (text : List Char) :
    ¬(spliceShell index text leaves).Yields (.error error) := by
  induction leaves generalizing index text with
  | nil => simp [spliceShell]
  | cons leaf rest ih => simp [spliceShell, ih]

end Markdown

end Runbook
