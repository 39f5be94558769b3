import Runbook.Check.ControlFlow
import Runbook.Markdown.Emitter
import Runbook.Proofs.CommandLines

/-!
# Fixed fences

Calls of agents, calls of functions and assignments stand in fenced blocks with fences of three
characters, whatever stands in them. A line of such a block begins with a fence if and only if a
text that is set into the block brings that line, and a block without such a line is read as a
whole.
-/

namespace Runbook

namespace Markdown

/-! ## Texts in fixed fences -/

/-- A text that is set into a fenced block. It begins a line or stands behind something else on its
first line. -/
structure Inset where
  leads : Bool
  text : String
deriving DecidableEq, Repr, Inhabited

/-- A line of the block that the text makes begins with a fence. -/
def Inset.closes (inset : Inset) : Bool :=
  if inset.leads then holdsFence inset.text.toList else holdsFenceBelow inset.text.toList

/-- What is set in for the content of an assignment. -/
def assignedContent (source : AssignSource) (content : String) : String :=
  match source with
  | .bash => Text.trim content
  | .env | .value => content

/-- The texts that an assignment sets in. -/
def assignmentInsets (assignment : Assignment) : Emission (List Inset) := do
  let name ← variableIn "assign variable" assignment.variableName
  return [⟨true, name⟩, ⟨false, assignment.comment.getD ""⟩,
    ⟨false, assignedContent assignment.source assignment.content⟩]

/-- The texts that several assignments set in. -/
def assignmentsInsets : List Assignment → Emission (List Inset)
  | [] => .done []
  | assignment :: rest => do
    let first ← assignmentInsets assignment
    let others ← assignmentsInsets rest
    return first ++ others

private theorem holdsFenceBelow_assignedText (source : AssignSource) (content : String) :
    holdsFenceBelow (assignedText source content).toList =
      holdsFenceBelow (assignedContent source content).toList := by
  cases source with
  | bash =>
    have htext : (assignedText .bash content).toList =
        ['$', '('] ++ ((Text.trim content).toList ++ [')']) := by
      simp [assignedText]
    rw [htext, holdsFenceBelow_between (by decide) (by decide)]
    rfl
  | env =>
    have htext : (assignedText .env content).toList = ['$'] ++ content.toList := by
      simp [assignedText]
    rw [htext, holdsFenceBelow_append (by decide)]
    rfl
  | value =>
    change holdsFenceBelow (shellLiteral content).toList = holdsFenceBelow content.toList
    rw [shellLiteral]
    split
    · rfl
    · have htext : (shellQuote content).toList =
          ['\''] ++ (content.toList.flatMap shellQuoteChar ++ ['\'']) := by
        simp [shellQuote, shellQuoteBody]
      rw [htext, holdsFenceBelow_between (by decide) (by decide),
        keepsMargins_shellQuoteChar.holdsFenceBelow_flatMap]

private theorem holdsFence_assignment (name : String) (source : AssignSource) (content : String) :
    holdsFence (name ++ "=" ++ assignedText source content).toList =
      (holdsFence name.toList || holdsFenceBelow (assignedContent source content).toList) := by
  have htext : (name ++ "=" ++ assignedText source content).toList =
      name.toList ++ '=' :: (assignedText source content).toList := by
    simp
  rw [htext, holdsFence_solid (by decide), holdsFenceBelow_assignedText]

private theorem holdsFence_comment (comment : String) :
    holdsFence ("# " ++ comment).toList = holdsFenceBelow comment.toList := by
  have htext : ("# " ++ comment).toList = [] ++ '#' :: ([' '] ++ comment.toList) := by simp
  rw [htext, holdsFence_solid (by decide), holdsFenceBelow_append (by decide)]
  rfl

variable {tool : String}

private theorem eval_variableIn_eq_ok {slot name : String} {value : Value}
    (h : (variableIn slot value).eval tool = .ok name) : value.variableName? = some name := by
  rw [variableIn] at h
  split at h
  · next hname =>
    cases h
    exact hname
  · cases h

private theorem eval_assignmentLines {assignment : Assignment} {lines : List String}
    (h : (assignmentLines assignment).eval tool = .ok lines) :
    ∃ found, (assignmentInsets assignment).eval tool = .ok found ∧
      (lines.any fun line ↦ holdsFence line.toList) = found.any Inset.closes := by
  obtain ⟨name, hname, hlines⟩ := exists_of_eval_bind h
  refine ⟨_, by rw [assignmentInsets, Emission.eval_bind, hname]; rfl, ?_⟩
  cases hlines
  have hline := holdsFence_assignment name assignment.source assignment.content
  split
  · next hempty =>
    have hcomment : assignment.comment.getD "" = "" := by simpa using hempty
    have hnone : holdsFenceBelow "".toList = false := rfl
    simp only [List.any_cons, List.any_nil, Bool.or_false, hline, Inset.closes, if_true,
      Bool.false_eq_true, if_false, hcomment, hnone, Bool.false_or]
  · simp only [List.any_cons, List.any_nil, Bool.or_false, hline, holdsFence_comment, Inset.closes,
      if_true, Bool.false_eq_true, if_false, Bool.or_left_comm]

private theorem eval_assignmentsLines {assignments : List Assignment} {lines : List String}
    (h : (assignmentsLines assignments).eval tool = .ok lines) :
    ∃ found, (assignmentsInsets assignments).eval tool = .ok found ∧
      (lines.any fun line ↦ holdsFence line.toList) = found.any Inset.closes := by
  induction assignments generalizing lines with
  | nil =>
    cases h
    exact ⟨[], rfl, rfl⟩
  | cons assignment rest ih =>
    obtain ⟨first, hfirst, h⟩ := exists_of_eval_bind h
    obtain ⟨others, hothers, h⟩ := exists_of_eval_bind h
    cases h
    obtain ⟨found, hfound, hclosed⟩ := eval_assignmentLines hfirst
    obtain ⟨more, hmore, hmoreClosed⟩ := ih hothers
    refine ⟨found ++ more, ?_, ?_⟩
    · rw [assignmentsInsets, Emission.eval_bind, hfound]
      change ((assignmentsInsets rest >>= _).eval tool) = _
      rw [Emission.eval_bind, hmore]
      rfl
    · rw [List.any_append, List.any_append, hclosed, hmoreClosed]

def commandText (config : Config) (call : StagedCall) (argument : String) : String :=
  config.runtimeCommand ++ " " ++ config.runtimeModule ++ " " ++ call.function ++ " " ++ argument

/-- The texts that a call of a function sets in: the variable, and the command behind it. -/
def callInsets (config : Config) (call : StagedCall) : Emission (List Inset) := do
  let output ← variableIn "staged-call output" call.output
  let argument ← callArgument call.args
  return [⟨true, output⟩, ⟨false, commandText config call argument⟩]

private theorem emitStagedCall_eq (config : Config) (call : StagedCall) :
    emitStagedCall config call = (do
      let output ← variableIn "staged-call output" call.output
      let argument ← callArgument call.args
      return shellBlock [output ++ "=$(" ++ commandText config call argument ++ ")"]) := by
  have hline : ∀ output argument : String,
      output ++ "=$(" ++ commandText config call argument ++ ")" =
        output ++ "=$(" ++ config.runtimeCommand ++ " " ++ config.runtimeModule ++ " " ++
          call.function ++ " " ++ argument ++ ")" := by
    intro output argument
    simp only [commandText, String.append_assoc]
  simp only [emitStagedCall, hline]
  cases call.args <;> rfl

/-- The texts that a call of an agent sets in. -/
def spawnInsets (spawn : Spawn) (prompt : String) : List Inset :=
  [⟨false, prompt⟩, ⟨false, agentName spawn⟩, ⟨false, spawn.model⟩, ⟨false, spawn.description⟩]

/-- The call inside its fences. -/
def taskBody (spawn : Spawn) (prompt : String) : String :=
  "Task(\n" ++ quotedField "prompt" prompt ++ ",\n" ++
    quotedField "subagent_type" (agentName spawn) ++ ",\n" ++
    quotedField "model" spawn.model ++ ",\n" ++
    quotedField "description" spawn.description ++ "\n)"

private theorem holdsFence_quotedField {name : String} {c : Char} {rest : List Char}
    (hname : name.toList = c :: rest) (hc : isSolid c = true) (hrest : '\n' ∉ rest)
    (text : String) {ending : List Char} (hending : '\n' ∉ ending) :
    holdsFence ((quotedField name text).toList ++ ending) = holdsFenceBelow text.toList := by
  have htext : (quotedField name text).toList ++ ending = [' ', ' '] ++ c ::
      ((rest ++ ['=', '"']) ++ (text.toList.flatMap quotedChar ++ '"' :: ending)) := by
    simp [quotedField, escapeQuotes_eq, hname]
  have hfront : '\n' ∉ rest ++ ['=', '"'] := by simp [hrest]
  have hmargin : holdsFence [' ', ' '] = false := rfl
  rw [htext, holdsFence_solid hc, holdsFenceBelow_append hfront, holdsFenceBelow_solid (by decide),
    keepsMargins_quotedChar.holdsFenceBelow_flatMap, holdsFenceBelow_of_notMem hending, hmargin,
    Bool.false_or, Bool.or_false]

private theorem holdsFence_taskBody (spawn : Spawn) (prompt : String) :
    holdsFence (taskBody spawn prompt).toList = (spawnInsets spawn prompt).any Inset.closes := by
  have htext : (taskBody spawn prompt).toList = ['T', 'a', 's', 'k', '('] ++ '\n' ::
      ((quotedField "prompt" prompt).toList ++ [','] ++ '\n' ::
        ((quotedField "subagent_type" (agentName spawn)).toList ++ [','] ++ '\n' ::
          ((quotedField "model" spawn.model).toList ++ [','] ++ '\n' ::
            ((quotedField "description" spawn.description).toList ++ [] ++ '\n' :: [')'])))) := by
    unfold taskBody
    -- The fields stay closed here, or their names would be spelled out letter by letter.
    generalize quotedField "prompt" prompt = first, quotedField "subagent_type" _ = second,
      quotedField "model" _ = third, quotedField "description" _ = fourth
    simp
  have hopen : holdsFence ['T', 'a', 's', 'k', '('] = false := rfl
  have hclose : holdsFence [')'] = false := rfl
  rw [htext, holdsFence_feed, holdsFence_feed, holdsFence_feed, holdsFence_feed, holdsFence_feed,
    holdsFence_quotedField rfl (by decide) (by decide) _ (by decide),
    holdsFence_quotedField rfl (by decide) (by decide) _ (by decide),
    holdsFence_quotedField rfl (by decide) (by decide) _ (by decide),
    holdsFence_quotedField rfl (by decide) (by decide) _ (by decide), hopen, hclose]
  simp [spawnInsets, Inset.closes]

theorem isFenced_shellBlock (lines : List String) :
    IsFenced (shellBlock lines) (Text.join "\n" lines) :=
  ⟨"bash", "", by simp [shellBlock, String.append_assoc], by decide, by simp⟩

private theorem isFenced_of_finishSpawn {spawn : Spawn} {prompt instructions text : String}
    (h : (finishSpawn spawn prompt instructions).eval tool = .ok text) :
    IsFenced text (taskBody spawn (wholePrompt spawn prompt instructions)) := by
  have hblock : taskBlock spawn (wholePrompt spawn prompt instructions) =
      "```" ++ "" ++ "\n" ++ taskBody spawn (wholePrompt spawn prompt instructions) ++ "\n```" := by
    unfold taskBlock taskBody
    generalize quotedField "prompt" _ = first, quotedField "subagent_type" _ = second,
      quotedField "model" _ = third, quotedField "description" _ = fourth
    simp [← String.toList_inj]
  rw [finishSpawn] at h
  split at h
  · cases h
    exact ⟨"", "", hblock.trans String.append_empty.symm, by decide, by simp⟩
  · obtain ⟨name, -, h⟩ := exists_of_eval_bind h
    cases h
    refine ⟨"", "\n\nStore the agent's result in `$" ++ name ++ "`.", ?_, by decide, by simp⟩
    rw [hblock]
    simp only [String.append_assoc]

end Markdown

open Markdown in
/-- The texts that a block sets into its fenced block, if it has one with fixed fences. -/
def Block.insets? (config : Config) : Block → Option (Emission (List Inset))
  | .container (.agentSpawn spawn) children => some do
    let prompt ← spawnPrompt config spawn
    let pieces ← Block.emitSequence config {} false children
    return spawnInsets spawn (wholePrompt spawn prompt (stackPieces "\n\n" pieces))
  | .leaf (.stagedCall call) => some (callInsets config call)
  | .leaf (.assign assignment) => some (assignmentInsets assignment)
  | .leaf (.assignGroup assignments) => some (assignmentsInsets assignments)
  | _ => none

namespace Markdown

variable {tool : String}

/-- An agent's block asks for its prompt, then for what its children ask, and is finished. -/
theorem emit_agentSpawn (config : Config) (state : EmitState) (spawn : Spawn)
    (children : List Block) :
    Block.emit config state (.container (.agentSpawn spawn) children) = (do
      let prompt ← spawnPrompt config spawn
      let pieces ← Block.emitSequence config {} false children
      finishSpawn spawn prompt (stackPieces "\n\n" pieces)) := by
  rw [Block.emit, Container.frame]
  simp only [bind_assoc, pure_bind]

private theorem holdsFence_call (output command : String) :
    holdsFence (output ++ "=$(" ++ command ++ ")").toList =
      (holdsFence output.toList || holdsFenceBelow command.toList) := by
  have htext : (output ++ "=$(" ++ command ++ ")").toList =
      output.toList ++ '=' :: (['$', '('] ++ (command.toList ++ [')'])) := by
    simp
  rw [htext, holdsFence_solid (by decide), holdsFenceBelow_between (by decide) (by decide)]

/-- What one block writes. -/
theorem exists_isFenced {config : Config} {state : EmitState} {block : Block}
    {insets : Emission (List Inset)} (hblock : block.insets? config = some insets) {text : String}
    (h : (block.emit config state).eval tool = .ok text) :
    ∃ found body, insets.eval tool = .ok found ∧ IsFenced text body ∧
      holdsFence body.toList = found.any Inset.closes := by
  match block with
  | .container (.agentSpawn spawn) children =>
    cases hblock
    rw [emit_agentSpawn] at h
    obtain ⟨prompt, hprompt, h⟩ := exists_of_eval_bind h
    obtain ⟨pieces, hpieces, h⟩ := exists_of_eval_bind h
    refine ⟨_, _, ?_, isFenced_of_finishSpawn h, holdsFence_taskBody _ _⟩
    simp [Emission.eval_bind, hprompt, hpieces, Except.bind, Emission.eval]
  | .leaf (.stagedCall call) =>
    cases hblock
    change (emitStagedCall config call).eval tool = .ok text at h
    rw [emitStagedCall_eq] at h
    obtain ⟨output, houtput, h⟩ := exists_of_eval_bind h
    obtain ⟨argument, hargument, h⟩ := exists_of_eval_bind h
    cases h
    refine ⟨[⟨true, output⟩, ⟨false, commandText config call argument⟩], _, ?_,
      isFenced_shellBlock _, ?_⟩
    · simp [callInsets, Emission.eval_bind, houtput, hargument, Except.bind, Emission.eval]
    · rw [Text.join_singleton, holdsFence_call]
      simp [Inset.closes]
  | .leaf (.assign assignment) =>
    cases hblock
    obtain ⟨lines, hlines, h⟩ := exists_of_eval_bind h
    cases h
    obtain ⟨found, hfound, hclosed⟩ := eval_assignmentLines hlines
    exact ⟨found, _, hfound, isFenced_shellBlock lines, by rw [holdsFence_join, hclosed]⟩
  | .leaf (.assignGroup assignments) =>
    cases hblock
    obtain ⟨lines, hlines, h⟩ := exists_of_eval_bind h
    cases h
    obtain ⟨found, hfound, hclosed⟩ := eval_assignmentsLines hlines
    exact ⟨found, _, hfound, isFenced_shellBlock lines, by rw [holdsFence_join, hclosed]⟩

/-! ## Calls of functions -/

/-- The variables of the call are identifiers, and its command is configured on one line. -/
structure IsPlainCall (config : Config) (tool : String) (call : StagedCall) : Prop where
  output : ∀ name ∈ call.output.variableName?, Text.isIdentifier name = true
  roots : ∀ leaf ∈ call.args.stagedLeaves, Text.isIdentifier leaf.root = true
  lines : ∀ text ∈ [tool, config.runtimeCommand, config.runtimeModule, call.function],
    '\n' ∉ text.toList

private theorem holdsFence_of_isIdentifier {name : String} (h : Text.isIdentifier name = true) :
    holdsFence name.toList = false := by
  have hsolid : name.toList.all (fun c ↦ isSolid c || c == '\n') = true := by
    rw [List.all_eq_true]
    intro c hc
    have hne : ∀ d, Text.isIdentifierStart d = false → Text.isIdentifierRest d = false → c ≠ d := by
      rintro d hstart hrest rfl
      exact Text.notMem_of_isIdentifier h hstart hrest hc
    simp [isSolid, hne '\n' (by decide) (by decide), hne ' ' (by decide) (by decide),
      hne fenceChar (by decide) (by decide)]
  have hname := holdsFence_append_of_all hsolid (y := []) rfl
  rwa [List.append_nil] at hname

/-- A call closes no fence, whatever its arguments are. -/
theorem IsPlainCall.closes_callInsets {config : Config} {call : StagedCall}
    (hcall : IsPlainCall config tool call) {found : List Inset}
    (h : (callInsets config call).eval tool = .ok found) : found.any Inset.closes = false := by
  obtain ⟨output, houtput, h⟩ := exists_of_eval_bind h
  obtain ⟨argument, hargument, h⟩ := exists_of_eval_bind h
  cases h
  have hname := holdsFence_of_isIdentifier (hcall.output output (eval_variableIn_eq_ok houtput))
  have hroots : ∀ leaf ∈ call.args.stagedLeaves, '\n' ∉ leaf.root.toList := fun leaf hleaf ↦
    Text.notMem_of_isIdentifier (hcall.roots leaf hleaf) (by decide) (by decide)
  obtain ⟨htool, hcommand, hmodule, hfunction⟩ : '\n' ∉ tool.toList ∧
      '\n' ∉ config.runtimeCommand.toList ∧ '\n' ∉ config.runtimeModule.toList ∧
        '\n' ∉ call.function.toList := by
    simpa using hcall.lines
  have htext : (commandText config call argument).toList =
      (config.runtimeCommand.toList ++ [' '] ++ config.runtimeModule.toList ++ [' '] ++
        call.function.toList ++ [' ']) ++ argument.toList := by
    simp [commandText]
  have hfront : '\n' ∉ config.runtimeCommand.toList ++ [' '] ++ config.runtimeModule.toList ++
      [' '] ++ call.function.toList ++ [' '] := by
    simp [hcommand, hmodule, hfunction]
  have hbelow : holdsFenceBelow (commandText config call argument).toList = false := by
    rw [htext, holdsFenceBelow_append hfront,
      holdsFenceBelow_of_callArgument hroots htool hargument]
  simp [Inset.closes, hname, hbelow]

/-- **A fixed fence is closed by what is set into it, and by nothing else.** A line between the
fences begins with a fence if and only if a text that the block sets in brings such a line: the
prompt of an agent with all that its children write, its name, model and description, the variables,
comments and contents of assignments, the variable and the command of a call. If none does, a reader
finds the whole body in the block. A call of a function whose variables are identifiers, with a
command configured on one line, never closes its fence. -/
theorem holdsFence_eq_any_insets (config : Config) (state : EmitState) (block : Block)
    (insets : Emission (List Inset)) (hblock : block.insets? config = some insets) (tool : String)
    (cache : Cache) (hcache : cache.Sound tool) (text : String)
    (h : ((block.emit config state).run tool cache).1 = .ok text) :
    ∃ found body, (insets.run tool cache).1 = .ok found ∧ IsFenced text body ∧
      holdsFence body.toList = found.any Inset.closes ∧
      (found.any Inset.closes = false → fencedLines text.toList = Text.splitLines body.toList) ∧
      ∀ call, block = .leaf (.stagedCall call) → IsPlainCall config tool call →
        found.any Inset.closes = false := by
  rw [(Emission.run_of_sound _ hcache).1] at h
  obtain ⟨found, body, hfound, hfenced, hholds⟩ := exists_isFenced hblock h
  refine ⟨found, body, ?_, hfenced, hholds, ?_, ?_⟩
  · rw [(Emission.run_of_sound _ hcache).1, hfound]
  · intro hnone
    exact hfenced.fencedLines_eq (hholds.trans hnone)
  · rintro call rfl hcall
    cases hblock
    exact hcall.closes_callInsets hfound

/-- Fences in the text, in a key and in a query path of one argument. -/
theorem holdsFence_eq_any_insets_call :
    let args : Value := .mapping
      [(.text "\n```", .text "\n```"), (.text "b", .staged ⟨"B", [.key "\n```"]⟩)]
    let call : StagedCall := ⟨"f", args, .staged ⟨"OUT", []⟩⟩
    let block : Block := .leaf (.stagedCall call)
    block.insets? {} = some (callInsets {} call) ∧ IsPlainCall {} "jq" call ∧
      ∃ text body, ((block.emit {} {}).run "jq" {}).1 = .ok text ∧ IsFenced text body ∧
        holdsFence body.toList = false ∧
        fencedLines text.toList = Text.splitLines body.toList := by
  intro args call block
  have hcall : IsPlainCall {} "jq" call := ⟨by decide, by decide, by decide⟩
  obtain ⟨text, htext⟩ : ∃ text, ((block.emit {} {}).run "jq" {}).1 = .ok text := ⟨_, rfl⟩
  obtain ⟨found, body, -, hfenced, hholds, hread, hplain⟩ :=
    holdsFence_eq_any_insets {} {} block _ rfl "jq" {} (Cache.sound_empty _) text htext
  have hnone := hplain call rfl hcall
  exact ⟨rfl, hcall, text, body, htext, hfenced, hholds.trans hnone, hread hnone⟩

/-- A block of code below the prompt of an agent: nothing is wrong with the document, and the call
is cut off behind the first line of its prompt. -/
theorem fencedLines_spawn_code :
    let spawn : Spawn :=
      { agent := "a", model := "m", description := "d", prompt := some (.text "Run:") }
    let document : Document :=
      { children := [.container (.agentSpawn spawn) [.leaf (.codeBlock none (.text "x"))]] }
    let body := "Task(\n  prompt=\"Run:\n\n```\nx\n```\",\n  subagent_type=\"a\",\n" ++
      "  model=\"m\",\n  description=\"d\"\n)"
    let text := "```\n" ++ body ++ "\n```\n"
    document.validate = .ok () ∧ (({} : Emitter).emit document).1.toOption = some text ∧
      IsFenced text body ∧ holdsFence body.toList = true ∧
      fencedLines text.toList = ["Task(".toList, "  prompt=\"Run:".toList, []] := by
  intro spawn document body text
  have htext : text = "```" ++ "" ++ "\n" ++ body ++ "\n```" ++ "\n" := by decide +kernel
  refine ⟨rfl, by decide +kernel, ⟨"", "\n", htext, by decide, by simp⟩, ?_, ?_⟩
  · decide +kernel
  · decide +kernel

end Markdown

end Runbook
