import Runbook.Condition.Render
import Runbook.Markdown.Leaf

/-!
# Markdown of containers

A container is written around the text of its children. Its frame is what has to be known before
the children are written, because the expressions of its own slots are asked for first, and how the
text is finished afterwards.
-/

namespace Runbook

/-- What surrounds the children of a container. -/
structure Frame where
  /-- For the children. -/
  state : EmitState
  /-- What stands between the children. -/
  separator : String
  /-- The text of the container around that of its children. -/
  finish : String → Emission String

/-- The frame of a container that asks for nothing after its children. -/
def Frame.around (state : EmitState) (wrap : String → String) : Frame :=
  ⟨state, "\n\n", fun body ↦ .done (wrap body)⟩

namespace Markdown

/-- A header with the body below it, if there is one. -/
def branch (header body : String) : String :=
  if body.isEmpty then header else header ++ "\n\n" ++ body

/-- A body between an opening and a closing tag. -/
def tagged (opening closing body : String) : String :=
  if body.isEmpty then opening ++ "\n" ++ closing else opening ++ "\n" ++ body ++ "\n" ++ closing

def attributeText (name text : String) : String :=
  " " ++ name ++ "=\"" ++ escapeAttribute text ++ "\""

def attributesText : List (String × Content) → Emission String
  | [] => .done ""
  | (name, content) :: rest => do
    let text ← Emission.content content
    let others ← attributesText rest
    return attributeText name text ++ others

def quoteLine (line : String) : String := if line.isEmpty then ">" else "> " ++ line

/-- A path with its marker, which is not doubled. -/
def markedPath (marker path : String) : String :=
  if Text.startsWith marker path then path else marker ++ path

/-! ## Agents -/

/-- The text of a part of an agent's input. Between its tags, a member shows as the member that it
is. -/
def inputPart (config : Config) : Value → Emission String
  | .staged value => .raw value
  | .text text => .done text
  | .member m => .done m.display
  | value => spliceJson config.jsonIndent value

/-- The parts of a mapping as tagged sections. -/
def inputSections (config : Config) : List (Value × Value) → Emission (List String)
  | [] => .done []
  | (key, value) :: rest => do
    let text ← inputPart config value
    let others ← inputSections config rest
    let name := key.display
    return ("<" ++ name ++ ">\n" ++ text ++ "\n</" ++ name ++ ">") :: others

/-- The prompt that an agent's input makes. -/
def inputText (config : Config) : Value → Emission String
  | .staged value => do return "<input>\n" ++ (← Emission.raw value) ++ "\n</input>"
  | .text text => .done text
  | .member m => .done m.text
  | .mapping entries => do return Text.join "\n\n" (← inputSections config entries)
  | value => spliceJson config.jsonIndent value

/-- The prompt of an agent before its further instructions. -/
def spawnPrompt (config : Config) (spawn : Spawn) : Emission String :=
  match spawn.prompt with
  | some content => Emission.content content
  | none => if spawn.input.isNull then .done "" else inputText config spawn.input

/-- A prompt by itself, and as a part of a longer text. -/
structure Prompt where
  alone : String
  inside : String
deriving DecidableEq, Repr, Inhabited

/-- The prompt of an agent that starts with the given text. A member of an enumeration shows as the
member that it is in a longer text. -/
def Prompt.start (spawn : Spawn) (text : String) : Prompt :=
  match spawn.prompt, spawn.input with
  | none, .member m => ⟨text, m.display⟩
  | _, _ => ⟨text, text⟩

/-- A prompt with further instructions below it. -/
def Prompt.withInstructions (prompt : Prompt) (instructions : String) : Prompt :=
  if instructions.isEmpty then prompt
  else
    let text :=
      if prompt.alone.isEmpty then instructions else prompt.inside ++ "\n\n" ++ instructions
    ⟨text, text⟩

/-- The whole prompt of an agent; one whose role stands in a file reads that file first. -/
def wholePrompt (spawn : Spawn) (prompt instructions : String) : String :=
  let whole := (Prompt.start spawn prompt).withInstructions instructions
  match spawn.loadFromFile with
  | none => whole.alone
  | some path =>
    if path.isEmpty then whole.alone
    else "First, read " ++ path ++ " for your role and instructions.\n\n" ++ whole.inside

/-- The agent that is started: a general one if the role stands in a file. -/
def agentName (spawn : Spawn) : String :=
  if (spawn.loadFromFile.getD "").isEmpty then spawn.agent else "general-purpose"

def quotedField (name text : String) : String :=
  "  " ++ name ++ "=\"" ++ escapeQuotes text ++ "\""

/-- The call that starts an agent. -/
def taskBlock (spawn : Spawn) (prompt : String) : String :=
  "```\nTask(\n" ++ quotedField "prompt" prompt ++ ",\n" ++
    quotedField "subagent_type" (agentName spawn) ++ ",\n" ++
    quotedField "model" spawn.model ++ ",\n" ++
    quotedField "description" spawn.description ++ "\n)\n```"

/-- The call that starts an agent, and where its result is kept. -/
def finishSpawn (spawn : Spawn) (prompt instructions : String) : Emission String :=
  let block := taskBlock spawn (wholePrompt spawn prompt instructions)
  if spawn.output.isNull then .done block
  else do
    let name ← variableIn "agent-spawn output" spawn.output
    return block ++ "\n\nStore the agent's result in `$" ++ name ++ "`."

/-! ## Control flow -/

def statusHeader (status : Status) (query : String) : String :=
  "**On " ++ status.name ++ "** (`" ++ query ++ "` = \"" ++ status.name ++ "\"):"

def boundText (value : Value) : Emission String :=
  match value.bound? with
  | some (.staged bound) => .raw bound
  | some (.count times) => .done (toString times)
  | none => .fail (.badBound value)

/-- The parts of a loop before its body: the bound and, if there is a counter, how it counts. -/
def loopParts (bound counter : Value) : Emission (List String) := do
  let times ← boundText bound
  let header := "**Loop up to " ++ times ++ " times:**"
  if counter.isNull then return [header]
  else
    let name ← variableIn "loop counter" counter
    return [header,
      "Set `$" ++ name ++ "` to 0 before the first iteration and increment it by 1 " ++
        "at the end of each iteration."]

/-! ## Steps -/

def stepText (state : EmitState) (number name : String) (layout : StepLayout) (body : String) :
    String :=
  let title := "Step " ++ number ++ ": " ++ name
  match layout with
  | .xml =>
    tagged ("<step" ++ attributeText "number" number ++ attributeText "name" name ++ ">") "</step>"
      body
  | .bold => branch ("**" ++ title ++ "**") body
  | .heading => branch (headingMarks state 2 ++ " " ++ title) body

end Markdown

namespace Container

open Markdown in
def frame (config : Config) (state : EmitState) : Container → Emission Frame
  | .blockquote =>
    .done (.around state fun body ↦ Text.join "\n" ((Text.lines body).map quoteLine))
  | .xmlBlock name attrs => do
    let opening := "<" ++ name ++ (← attributesText attrs) ++ ">"
    return .around state (tagged opening ("</" ++ name ++ ">"))
  | .group => .done ⟨state, "\n", .done⟩
  | .indent spaces =>
    .done ⟨state, "\n\n", fun body ↦ do
      Emission.checkBlanks spaces
      return Text.indentBy spaces body⟩
  | .executionReference paths marker =>
    .done (.around state fun body ↦
      Text.join "\n" ("<execution_context>" :: paths.map (markedPath marker) ++
        (if body.isEmpty then [] else [body]) ++ ["</execution_context>"]))
  | .step number name layout =>
    .done (.around { state with headingOffset := state.headingOffset + 1 }
      (stepText state number name layout))
  | .agentSpawn spawn => do
    let prompt ← spawnPrompt config spawn
    return ⟨{}, "\n\n", finishSpawn spawn prompt⟩
  | .statusBranch output status =>
    match output.staged? with
    | none => .fail .statusNotStaged
    | some value => do
      let query ← Emission.raw (value.project (.key "status"))
      return .around state (branch (statusHeader status query))
  | .conditional condition => do
    let assertion ← Condition.renderValue condition
    return .around state (branch ("**If `" ++ assertion ++ "`:**"))
  | .elseBranch => .done (.around state (branch "**Otherwise:**"))
  | .loop bound counter => do
    let parts ← loopParts bound counter
    return .around state fun body ↦
      Text.join "\n\n" (parts ++ if body.isEmpty then [] else [body])

end Container

end Runbook
