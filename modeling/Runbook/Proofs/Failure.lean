import Runbook.Check.ControlFlow
import Runbook.Proofs.Serializable

/-!
# Why a block cannot be written

The writer of a block reads slots that the control-flow check has looked at before, and data that
the check does not look at. So it can fail for two reasons. Either a slot holds what the check
reports, and the error says that the document should have been rejected; or the data has no JSON
text, or a run of blanks or a number is too long. `Block.Causes` names the two, and every error of a
leaf or of a container around its body is shown to have one of them.

Conversely, a leaf or a container that is written has no slot that the check would report
(`Leaf.not_trips_of_yields_ok`, `Container.not_trips_of_yields_ok`). The number of options of a
question is checked, but writing does not rely on it.
-/

namespace Runbook

open Markdown

/-- The rule of the violation is one that emission relies on. -/
def Violation.Trips (violation : Violation) : Prop :=
  violation.rule = .danglingElse ∨ violation.rule = .typeMismatch

private theorem Violation.not_trips_optionCount (count : Nat) :
    ¬(Violation.optionCount count).Trips := by
  simp [Trips, rule]

theorem Violation.not_trips_breakOutsideLoop : ¬Violation.breakOutsideLoop.Trips := by
  simp [Trips, rule]

def Config.CanIndent (config : Config) : Prop :=
  ∃ width, config.jsonIndent = some width ∧ width < Emission.lengthLimit

namespace Block

/-- The data of the block that is written as JSON is serializable. -/
def Serializable : Block → Prop
  | .leaf (.stagedCall call) => call.args.isSerializable = true
  | .container (.agentSpawn spawn) _ => spawn.input.isSerializable = true
  | _ => True

/-- The blanks that the block is indented by can be counted. -/
def Fits : Block → Prop
  | .container (.indent spaces) _ => spaces < Emission.lengthLimit
  | _ => True

/-- The block alone gives reason for the error. -/
def Causes (config : Config) (error : EmitError) (block : Block) : Prop :=
  (error.isInvariant = true ∧ ∃ violation ∈ block.slotViolations, violation.Trips) ∨
    (error.isInvariant = false ∧ (config.CanIndent → ¬(block.Serializable ∧ block.Fits)))

end Block

/-! ## Slots -/

namespace Markdown

variable {error : EmitError} {slot text : String} {value : Value}

private theorem yields_error_variableIn (h : (variableIn slot value).Yields (.error error))
    (holder : Kind) (name : String) :
    error.isInvariant = true ∧ ∃ violation ∈ checkVariable holder name value, violation.Trips := by
  rw [variableIn] at h
  split at h
  · exact absurd h (by simp)
  · next hnone =>
    obtain rfl : error = .notVariable slot value := by simpa using h
    refine ⟨rfl, .badVariable holder name value, ?_, .inr rfl⟩
    simp [checkVariable, hnone]

private theorem checkVariable_of_yields_ok (h : (variableIn slot value).Yields (.ok text))
    (holder : Kind) (name : String) : checkVariable holder name value = [] := by
  rw [variableIn] at h
  split at h
  · next hsome => simp [checkVariable, hsome]
  · exact absurd h (by simp)

private theorem yields_error_checkBlanks {count : Nat}
    (h : (Emission.checkBlanks count).Yields (.error error)) :
    error.isInvariant = false ∧ ¬count < Emission.lengthLimit := by
  rw [Emission.checkBlanks] at h
  split at h
  · exact absurd h (by simp)
  · next hcount =>
    obtain rfl : error = .lengthOverflow := by simpa using h
    exact ⟨rfl, hcount⟩

private theorem yields_error_spliceJson {config : Config}
    (h : (spliceJson config.jsonIndent value).Yields (.error error)) :
    error.isInvariant = false ∧ (config.CanIndent → value.isSerializable = false) := by
  cases hwidth : config.jsonIndent with
  | none =>
    rw [hwidth] at h
    obtain rfl : error = .unserializable := by simpa [spliceJson] using h
    refine ⟨rfl, ?_⟩
    rintro ⟨width, hsome, -⟩
    exact absurd (hsome.symm.trans hwidth) (Option.some_ne_none width)
  | some width =>
    rw [hwidth] at h
    simp only [spliceJson, Emission.yields_bind_error, not_yields_error_fillMarkers,
      Emission.pure_eq, Emission.yields_done, reduceCtorEq, and_false, exists_false, or_false] at h
    rcases h with hblanks | ⟨_, -, hjson⟩
    · obtain ⟨hinvariant, hlimit⟩ := yields_error_checkBlanks hblanks
      refine ⟨hinvariant, ?_⟩
      rintro ⟨other, hother, hfits⟩
      obtain rfl := Option.some.inj (hwidth.symm.trans hother)
      exact absurd hfits hlimit
    · obtain ⟨rfl, hvalue⟩ := yields_error_markedJson _ hjson
      exact ⟨rfl, fun _ ↦ hvalue⟩

end Markdown

/-! ## Leaves -/

namespace Markdown

variable {error : EmitError}

private theorem yields_error_assignmentLines {assignment : Assignment}
    (h : (assignmentLines assignment).Yields (.error error)) :
    (variableIn "assign variable" assignment.variableName).Yields (.error error) := by
  simpa [assignmentLines] using h

private theorem yields_error_assignmentsLines {assignments : List Assignment}
    (h : (assignmentsLines assignments).Yields (.error error)) :
    ∃ assignment ∈ assignments,
      (variableIn "assign variable" assignment.variableName).Yields (.error error) := by
  induction assignments with
  | nil => simp [assignmentsLines] at h
  | cons assignment rest ih =>
    rw [assignmentsLines, Emission.yields_bind_error] at h
    rcases h with h | ⟨_, -, h⟩
    · exact ⟨assignment, List.mem_cons_self, yields_error_assignmentLines h⟩
    · obtain ⟨other, hother, h⟩ := ih ((Emission.yields_map_error ..).mp h)
      exact ⟨other, List.mem_cons_of_mem _ hother, h⟩

private theorem yields_ok_assignmentsLines {assignments : List Assignment} {lines : List String}
    (h : (assignmentsLines assignments).Yields (.ok lines)) :
    ∀ assignment ∈ assignments,
      ∃ name, (variableIn "assign variable" assignment.variableName).Yields (.ok name) := by
  induction assignments generalizing lines with
  | nil => simp
  | cons assignment rest ih =>
    simp only [assignmentsLines, assignmentLines, Emission.yields_bind_ok] at h
    obtain ⟨_, ⟨name, hname, -⟩, others, hothers, -⟩ := h
    intro other hother
    rcases List.mem_cons.mp hother with rfl | hother
    · exact ⟨name, hname⟩
    · exact ih hothers other hother

end Markdown

theorem Leaf.causes_of_yields_error {config : Config} {state : EmitState} {content : Leaf}
    {error : EmitError} (h : (content.emit config state).Yields (.error error)) :
    (Block.leaf content).Causes config error := by
  cases content with
  | stagedCall call =>
    simp only [emit, emitStagedCall, Emission.yields_bind_error] at h
    rcases h with h | ⟨_, -, h⟩
    · exact .inl (yields_error_variableIn h _ _)
    · split at h
      · simp at h
      · obtain ⟨rfl, hargs⟩ := yields_error_shellJson ((Emission.yields_map_error ..).mp h)
        refine .inr ⟨rfl, fun _ hwritable ↦ ?_⟩
        exact Bool.false_ne_true (hargs.symm.trans hwritable.1)
  | assign assignment =>
    simp only [emit, Emission.pure_eq, Emission.yields_map_error] at h
    exact .inl (yields_error_variableIn (yields_error_assignmentLines h) _ _)
  | assignGroup assignments =>
    simp only [emit, Emission.pure_eq, Emission.yields_map_error] at h
    obtain ⟨assignment, hmem, hvariable⟩ := yields_error_assignmentsLines h
    obtain ⟨hinvariant, violation, hviolation, htrips⟩ :=
      yields_error_variableIn hvariable .assign "variable"
    exact .inl ⟨hinvariant, violation, List.mem_flatMap.mpr ⟨assignment, hmem, hviolation⟩, htrips⟩
  | askUser question =>
    simp only [emit, emitQuestion, Emission.yields_bind_error,
      Emission.not_yields_error_content, Emission.pure_eq, Emission.yields_done,
      reduceCtorEq, and_false, exists_false, or_false] at h
    obtain ⟨hinvariant, violation, hviolation, htrips⟩ :=
      yields_error_variableIn h .askUser "output"
    exact .inl ⟨hinvariant, violation, List.mem_append_right _ hviolation, htrips⟩
  | _ => simp [emit] at h

theorem Leaf.not_trips_of_yields_ok {config : Config} {state : EmitState} {content : Leaf}
    {text : String} (h : (content.emit config state).Yields (.ok text)) :
    ∀ violation ∈ content.violations, ¬violation.Trips := by
  cases content with
  | stagedCall call =>
    simp only [emit, emitStagedCall, Emission.yields_bind_ok] at h
    obtain ⟨name, hname, -⟩ := h
    rw [violations, checkVariable_of_yields_ok hname]
    simp
  | assign assignment =>
    simp only [emit, assignmentLines, Emission.yields_bind_ok] at h
    obtain ⟨_, ⟨name, hname, -⟩, -⟩ := h
    rw [violations, checkVariable_of_yields_ok hname]
    simp
  | assignGroup assignments =>
    simp only [emit, Emission.yields_bind_ok] at h
    obtain ⟨lines, hlines, -⟩ := h
    intro violation hviolation
    obtain ⟨assignment, hmem, hviolation⟩ := List.mem_flatMap.mp hviolation
    obtain ⟨name, hname⟩ := yields_ok_assignmentsLines hlines assignment hmem
    rw [checkVariable_of_yields_ok hname] at hviolation
    exact absurd hviolation List.not_mem_nil
  | askUser question =>
    simp only [emit, emitQuestion, Emission.yields_bind_ok] at h
    obtain ⟨name, hname, -⟩ := h
    rw [violations, checkVariable_of_yields_ok hname, List.append_nil]
    intro violation hviolation
    split at hviolation
    · exact absurd hviolation List.not_mem_nil
    · rw [List.mem_singleton.mp hviolation]
      exact Violation.not_trips_optionCount _
  | _ => simp [violations]

/-! ## Containers -/

namespace Markdown

variable {error : EmitError} {config : Config}

private theorem yields_error_inputPart {value : Value}
    (h : (inputPart config value).Yields (.error error)) :
    error.isInvariant = false ∧ (config.CanIndent → value.isSerializable = false) := by
  rw [inputPart.eq_def] at h
  split at h
  · simp at h
  · simp at h
  · simp at h
  · exact yields_error_spliceJson h

private theorem yields_error_inputSections {entries : List (Value × Value)}
    (h : (inputSections config entries).Yields (.error error)) :
    error.isInvariant = false ∧ (config.CanIndent → Value.hasSerializable entries = false) := by
  induction entries with
  | nil => simp [inputSections] at h
  | cons entry rest ih =>
    rw [inputSections, Emission.yields_bind_error] at h
    rw [Value.hasSerializable]
    rcases h with h | ⟨_, -, h⟩
    · obtain ⟨hinvariant, hvalue⟩ := yields_error_inputPart h
      exact ⟨hinvariant, fun hindent ↦ by rw [hvalue hindent, Bool.false_and]⟩
    · obtain ⟨hinvariant, hrest⟩ := ih ((Emission.yields_map_error ..).mp h)
      exact ⟨hinvariant, fun hindent ↦ by rw [hrest hindent, Bool.and_false]⟩

private theorem yields_error_inputText {value : Value}
    (h : (inputText config value).Yields (.error error)) :
    error.isInvariant = false ∧ (config.CanIndent → value.isSerializable = false) := by
  rw [inputText.eq_def] at h
  split at h
  · simp at h
  · simp at h
  · simp at h
  · rw [Value.isSerializable]
    exact yields_error_inputSections ((Emission.yields_map_error ..).mp h)
  · exact yields_error_spliceJson h

private theorem yields_error_spawnPrompt {spawn : Spawn}
    (h : (spawnPrompt config spawn).Yields (.error error)) :
    error.isInvariant = false ∧ (config.CanIndent → spawn.input.isSerializable = false) := by
  rw [spawnPrompt] at h
  split at h
  · simp at h
  · split at h
    · simp at h
    · exact yields_error_inputText h

private theorem yields_error_renderValue {value : Value}
    (h : (Condition.renderValue value).Yields (.error error)) :
    error = .notCondition value ∧ Condition.ofValue? value = none := by
  rw [Condition.renderValue] at h
  split at h
  · simp at h
  · next hnone => exact ⟨by simpa using h, hnone⟩

private theorem isSome_ofValue?_of_yields_ok {value : Value} {text : String}
    (h : (Condition.renderValue value).Yields (.ok text)) :
    (Condition.ofValue? value).isSome = true := by
  rw [Condition.renderValue] at h
  split at h
  · next hsome => rw [hsome]; rfl
  · simp at h

private theorem yields_error_boundText {value : Value}
    (h : (boundText value).Yields (.error error)) :
    error = .badBound value ∧ value.bound? = none := by
  rw [boundText] at h
  split at h
  · simp at h
  · simp at h
  · next hnone => exact ⟨by simpa using h, hnone⟩

private theorem isSome_bound?_of_yields_ok {value : Value} {text : String}
    (h : (boundText value).Yields (.ok text)) : value.bound?.isSome = true := by
  rw [boundText] at h
  split at h
  · next hsome => rw [hsome]; rfl
  · next hsome => rw [hsome]; rfl
  · simp at h

/-- What fails behind a slot that may be empty is the slot. -/
theorem trips_of_not_isNull {value : Value} {slot : String} (hnull : ¬value.isNull = true)
    (h : (variableIn slot value).Yields (.error error)) (holder : Kind) (name : String) :
    error.isInvariant = true ∧
      ∃ violation ∈ checkOptionalVariable holder name value, violation.Trips := by
  rw [checkOptionalVariable, if_neg hnull]
  exact yields_error_variableIn h holder name

end Markdown

namespace Container

variable {config : Config} {state : EmitState} {head : Container} {frame : Frame}

theorem causes_of_frame {error : EmitError} (h : (head.frame config state).Yields (.error error))
    (children : List Block) : (Block.container head children).Causes config error := by
  cases head with
  | agentSpawn spawn =>
    obtain ⟨hinvariant, hinput⟩ := yields_error_spawnPrompt ((Emission.yields_map_error ..).mp h)
    refine .inr ⟨hinvariant, fun hindent hwritable ↦ ?_⟩
    exact Bool.false_ne_true ((hinput hindent).symm.trans hwritable.1)
  | statusBranch output status =>
    rw [Container.frame] at h
    split at h
    · next hnone =>
      obtain rfl : error = .statusNotStaged := by simpa using h
      refine .inl ⟨rfl, .badStatusOutput output, ?_, .inr rfl⟩
      simp [Block.slotViolations, violations, hnone]
    · simp at h
  | conditional condition =>
    obtain ⟨rfl, hnone⟩ := yields_error_renderValue ((Emission.yields_map_error ..).mp h)
    refine .inl ⟨rfl, .badCondition condition, ?_, .inr rfl⟩
    simp [Block.slotViolations, violations, hnone]
  | loop bound counter =>
    have hparts := (Emission.yields_map_error ..).mp h
    rw [loopParts, Emission.yields_bind_error] at hparts
    rcases hparts with hbound | ⟨times, -, hcounter⟩
    · obtain ⟨rfl, hnone⟩ := yields_error_boundText hbound
      refine .inl ⟨rfl, .badBound bound, List.mem_append_left _ ?_, .inr rfl⟩
      simp [hnone]
    · split at hcounter
      · simp at hcounter
      · next hnull =>
        obtain ⟨hinvariant, violation, hviolation, htrips⟩ :=
          trips_of_not_isNull hnull ((Emission.yields_map_error ..).mp hcounter) .loop "counter"
        exact .inl ⟨hinvariant, violation, List.mem_append_right _ hviolation, htrips⟩
  | _ => simp [Container.frame] at h

theorem causes_of_finish {error : EmitError} {body : String}
    (hframe : (head.frame config state).Yields (.ok frame))
    (h : (frame.finish body).Yields (.error error)) (children : List Block) :
    (Block.container head children).Causes config error := by
  cases head with
  | indent spaces =>
    obtain rfl : frame = _ := by simpa [Container.frame] using hframe
    obtain ⟨hinvariant, hlimit⟩ := yields_error_checkBlanks ((Emission.yields_map_error ..).mp h)
    exact .inr ⟨hinvariant, fun _ hwritable ↦ hlimit hwritable.2⟩
  | agentSpawn spawn =>
    obtain ⟨prompt, -, rfl⟩ := (Emission.yields_map_ok ..).mp hframe
    change (finishSpawn spawn prompt body).Yields (.error error) at h
    rw [finishSpawn] at h
    split at h
    · simp at h
    · next hnull =>
      exact .inl (trips_of_not_isNull hnull ((Emission.yields_map_error ..).mp h) _ _)
  | statusBranch output status =>
    rw [Container.frame] at hframe
    split at hframe
    · simp at hframe
    · obtain ⟨query, -, rfl⟩ := (Emission.yields_map_ok ..).mp hframe
      simp [Frame.around] at h
  | xmlBlock name attrs =>
    obtain ⟨opening, -, rfl⟩ := (Emission.yields_map_ok ..).mp hframe
    simp [Frame.around] at h
  | conditional condition =>
    obtain ⟨assertion, -, rfl⟩ := (Emission.yields_map_ok ..).mp hframe
    simp [Frame.around] at h
  | loop bound counter =>
    obtain ⟨parts, -, rfl⟩ := (Emission.yields_map_ok ..).mp hframe
    simp [Frame.around] at h
  | _ =>
    obtain rfl : frame = _ := by simpa [Container.frame] using hframe
    simp [Frame.around] at h

/-- A frame that is finished comes from slots that are in order. -/
theorem not_trips_of_yields_ok {body text : String}
    (hframe : (head.frame config state).Yields (.ok frame))
    (h : (frame.finish body).Yields (.ok text)) :
    ∀ violation ∈ head.violations, ¬violation.Trips := by
  cases head with
  | agentSpawn spawn =>
    obtain ⟨prompt, -, rfl⟩ := (Emission.yields_map_ok ..).mp hframe
    change (finishSpawn spawn prompt body).Yields (.ok text) at h
    rw [finishSpawn] at h
    rw [violations, checkOptionalVariable]
    split at h
    · next hnull => simp [hnull]
    · next hnull =>
      obtain ⟨name, hname, -⟩ := (Emission.yields_bind_ok ..).mp h
      rw [if_neg hnull, checkVariable_of_yields_ok hname]
      simp
  | statusBranch output status =>
    rw [Container.frame] at hframe
    split at hframe
    · simp at hframe
    · next hsome => simp [violations, hsome]
  | conditional condition =>
    obtain ⟨assertion, hassertion, -⟩ := (Emission.yields_bind_ok ..).mp hframe
    simp [violations, isSome_ofValue?_of_yields_ok hassertion]
  | loop bound counter =>
    obtain ⟨parts, hparts, -⟩ := (Emission.yields_bind_ok ..).mp hframe
    obtain ⟨times, htimes, hcounter⟩ := (Emission.yields_bind_ok ..).mp hparts
    rw [violations, if_pos (isSome_bound?_of_yields_ok htimes), List.nil_append,
      checkOptionalVariable]
    split at hcounter
    · next hnull => simp [hnull]
    · next hnull =>
      obtain ⟨name, hname, -⟩ := (Emission.yields_bind_ok ..).mp hcounter
      rw [if_neg hnull, checkVariable_of_yields_ok hname]
      simp
  | _ => simp [violations]

end Container

end Runbook
