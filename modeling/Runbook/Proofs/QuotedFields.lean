import Runbook.Proofs.FixedFences
import Runbook.Proofs.Quoting

/-!
# Quoted fields

The call of an agent and the question to the user hold quoted texts with backslashes; the attributes
of a tag are quoted with entities. For each of these blocks the quotations are listed in their
order, each with what stands in front of it, and the block is those quotations woven together.

What stands between two quotations is fixed, but for the descriptions of options and the names of
tags and attributes. These are written as they are and may hold quotes themselves. So the quotations
of every block are read back at their places, and a reader who looks for quotes finds those in front
of which no such text holds one.
-/

namespace Runbook

namespace Markdown

/-! ## Calls of agents -/

/-- What is asked, as the prompt shows it: a member of an enumeration is its text where the prompt
holds nothing else, and goes by its name in a longer prompt. -/
def askedText (spawn : Spawn) (asked instructions : String) : String :=
  let prompt := Prompt.start spawn asked
  if instructions.isEmpty then
    if (spawn.loadFromFile.getD "").isEmpty then prompt.alone else prompt.inside
  else if prompt.alone.isEmpty then "" else prompt.inside

/-- The prompt of an agent. If the role of the agent stands in a file, it says so first; what is
asked and the further instructions follow, as far as there are any. -/
def assembledPrompt (spawn : Spawn) (asked instructions : String) : String :=
  let path := spawn.loadFromFile.getD ""
  (if path.isEmpty then "" else "First, read " ++ path ++ " for your role and instructions.\n\n") ++
    Text.join "\n\n"
      ([askedText spawn asked instructions, instructions].filter fun part ↦ !part.isEmpty)

/-- The quoted texts of the call that starts an agent. -/
def taskQuotations (spawn : Spawn) (prompt : String) : List Quotation :=
  [⟨"```\nTask(\n  prompt=", prompt⟩, ⟨",\n  subagent_type=", agentName spawn⟩,
    ⟨",\n  model=", spawn.model⟩, ⟨",\n  description=", spawn.description⟩]

variable {tool : String}

private theorem join_filter_isEmpty (asked instructions : String) :
    Text.join "\n\n" ([asked, instructions].filter fun part ↦ !part.isEmpty) =
      if instructions.isEmpty then asked
      else if asked.isEmpty then instructions else asked ++ "\n\n" ++ instructions := by
  by_cases hinstructions : instructions.isEmpty = true <;> by_cases hasked : asked.isEmpty = true
  · simp_all [Text.join, Text.joinChars]
  · simp [hinstructions, hasked, Text.join_singleton]
  · simp [hinstructions, hasked, Text.join_singleton]
  · simp [hinstructions, hasked, Text.join, Text.joinChars, ← String.toList_inj]

/-- A text that is there shows in a longer prompt too. -/
theorem Prompt.isEmpty_inside_start {spawn : Spawn} {asked : String}
    (h : ¬ (Prompt.start spawn asked).alone.isEmpty = true) :
    ¬ (Prompt.start spawn asked).inside.isEmpty = true := by
  rw [Prompt.start] at h ⊢
  split at h
  · simp [Member.display]
  · exact h

private theorem wholePrompt_eq (spawn : Spawn) (asked instructions : String) :
    wholePrompt spawn asked instructions = assembledPrompt spawn asked instructions := by
  rw [wholePrompt, assembledPrompt, join_filter_isEmpty, askedText, Prompt.withInstructions]
  have hinside := @Prompt.isEmpty_inside_start spawn asked
  generalize Prompt.start spawn asked = prompt at hinside ⊢
  by_cases hinstructions : instructions.isEmpty = true
  · cases spawn.loadFromFile with
    | none => simp [hinstructions]
    | some path => by_cases hpath : path.isEmpty = true <;> simp [hinstructions, hpath]
  · by_cases halone : prompt.alone.isEmpty = true
    · cases spawn.loadFromFile with
      | none => simp [hinstructions, halone]
      | some path => by_cases hpath : path.isEmpty = true <;> simp [hinstructions, halone, hpath]
    · cases spawn.loadFromFile with
      | none => simp [hinstructions, halone, hinside halone]
      | some path =>
        by_cases hpath : path.isEmpty = true <;>
          simp [hinstructions, halone, hinside halone, hpath]

/-- A text in quotes behind its label is a quotation. -/
theorem toList_escapeQuotes (front : List Char) (opening lead : String)
    (hlead : front ++ opening.toList = lead.toList ++ ['"']) (text : String) (rest : List Char) :
    front ++ ((opening ++ escapeQuotes text ++ "\"").toList ++ rest) =
      lead.toList ++ '"' :: (text.toList.flatMap quotedChar ++ '"' :: rest) := by
  have hfront : front ++ (opening.toList ++ (text.toList.flatMap quotedChar ++ '"' :: rest)) =
      lead.toList ++ (['"'] ++ (text.toList.flatMap quotedChar ++ '"' :: rest)) := by
    rw [← List.append_assoc, hlead, List.append_assoc]
  simpa [escapeQuotes_eq] using hfront

private theorem toList_quotedField (lead : String) {front : List Char} {name : String}
    (hlead : front ++ ("  " ++ name ++ "=\"").toList = lead.toList ++ ['"']) (text : String)
    (rest : List Char) :
    front ++ ((quotedField name text).toList ++ rest) =
      lead.toList ++ '"' :: (text.toList.flatMap quotedChar ++ '"' :: rest) :=
  toList_escapeQuotes front _ lead hlead text rest

private theorem toList_taskBlock (spawn : Spawn) (prompt : String) (rest : List Char) :
    (taskBlock spawn prompt).toList ++ rest =
      Quoting.backslashes.weave (taskQuotations spawn prompt) ("\n)\n```".toList ++ rest) := by
  unfold taskBlock taskQuotations
  simp only [String.toList_append, List.append_assoc, Quoting.weave, Quoting.code]
  rw [toList_quotedField "```\nTask(\n  prompt=" (by decide),
    toList_quotedField ",\n  subagent_type=" (by decide),
    toList_quotedField ",\n  model=" (by decide),
    toList_quotedField ",\n  description=" (by decide)]

private theorem exists_weave_of_finishSpawn {spawn : Spawn} {asked instructions text : String}
    (h : (finishSpawn spawn asked instructions).eval tool = .ok text) :
    ∃ tail, text.toList = Quoting.backslashes.weave
      (taskQuotations spawn (assembledPrompt spawn asked instructions)) tail := by
  rw [finishSpawn, wholePrompt_eq] at h
  split at h
  · have hblock := toList_taskBlock spawn (assembledPrompt spawn asked instructions) []
    rw [List.append_nil] at hblock
    exact ⟨_, by rw [← Except.ok.inj h, hblock]⟩
  · obtain ⟨name, -, h⟩ := exists_of_eval_bind h
    have hblock := toList_taskBlock spawn (assembledPrompt spawn asked instructions)
      ("\n\nStore the agent's result in `$" ++ (name ++ "`.")).toList
    exact ⟨_, by rw [← Except.ok.inj h, String.append_assoc, String.append_assoc,
      String.toList_append, hblock]⟩

/-! ## Questions -/

/-- The quoted texts of options. The first of them stands on the line below `lead`. -/
def choiceQuotations (lead : String) : List Choice → List Quotation
  | [] => []
  | choice :: rest =>
    ⟨lead ++ "\n  - ", choice.label⟩ :: ⟨" (value: ", choice.value⟩ ::
      choiceQuotations (")" ++ described " - " choice.description) rest

/-- The quoted texts of a question: what is asked, the header if there is one, and for each option
its label and its value. -/
def questionQuotations (question : Question) (asked : String) : List Quotation :=
  let header := question.header.getD ""
  ⟨"Use the AskUserQuestion tool:\n\n- Question: ", asked⟩ ::
    (if header.isEmpty then [] else [⟨"\n- Header: ", header⟩]) ++
    choiceQuotations "\n- Options:" question.options

private theorem exists_weave_choices (lead : String) (choices : List Choice) (rest : List Char) :
    ∃ tail, lead.toList ++ (Text.below ((choices.map choiceLine).map String.toList) ++ rest) =
      Quoting.backslashes.weave (choiceQuotations lead choices) tail := by
  induction choices generalizing lead with
  | nil => exact ⟨_, rfl⟩
  | cons choice others ih =>
    obtain ⟨tail, htail⟩ := ih (")" ++ described " - " choice.description)
    refine ⟨tail, ?_⟩
    rw [choiceQuotations, Quoting.weave, Quoting.weave, ← htail]
    simp [Text.below_cons, choiceLine, escapeQuotes_eq, Quoting.code]

private theorem exists_weave_options (header : String) (choices : List Choice) (rest : List Char) :
    ∃ tail, Text.below (((if header.isEmpty then []
        else ["- Header: \"" ++ escapeQuotes header ++ "\""]) ++
          "- Options:" :: choices.map choiceLine).map String.toList) ++ rest =
      Quoting.backslashes.weave ((if header.isEmpty then [] else [⟨"\n- Header: ", header⟩]) ++
        choiceQuotations "\n- Options:" choices) tail := by
  obtain ⟨tail, htail⟩ := exists_weave_choices "\n- Options:" choices rest
  have hoptions : Text.below (("- Options:" :: choices.map choiceLine).map String.toList) ++ rest =
      Quoting.backslashes.weave (choiceQuotations "\n- Options:" choices) tail := by
    rw [← htail, List.map_cons, Text.below_cons, List.cons_append, List.append_assoc]
    rfl
  refine ⟨tail, ?_⟩
  by_cases hheader : header.isEmpty = true
  · rw [if_pos hheader, if_pos hheader]
    exact hoptions
  · have hline := toList_escapeQuotes ['\n'] "- Header: \"" "\n- Header: " (by decide) header
      (Text.below (("- Options:" :: choices.map choiceLine).map String.toList) ++ rest)
    rw [List.singleton_append, hoptions] at hline
    rw [if_neg hheader, if_neg hheader, List.singleton_append, List.singleton_append,
      List.map_cons, Text.below_cons, List.cons_append, List.append_assoc, hoptions, hline]
    simp only [Quoting.weave, Quoting.code]

private theorem exists_weave_of_emitQuestion {question : Question} {text : String}
    (h : (emitQuestion question).eval tool = .ok text) :
    ∃ asked tail, (Emission.content question.question).eval tool = .ok asked ∧
      text.toList = Quoting.backslashes.weave (questionQuotations question asked) tail := by
  obtain ⟨output, -, h⟩ := exists_of_eval_bind h
  obtain ⟨asked, hasked, h⟩ := exists_of_eval_bind h
  dsimp only at h
  rw [List.append_assoc _ _ ("- Options:" :: _), List.append_assoc _ _ ["", _]] at h
  obtain ⟨tail, htail⟩ := exists_weave_options (question.header.getD "") question.options
    (Text.below (((if question.multiSelect then ["- Multiple selections allowed"] else []) ++
      ["", "Store the user's response in `$" ++ output ++ "`."]).map String.toList))
  refine ⟨asked, tail, hasked, ?_⟩
  rw [← Except.ok.inj h, questionQuotations]
  simp only [List.cons_append, List.nil_append, Quoting.weave, Quoting.code]
  rw [← htail, Text.toList_join_cons, List.map_cons, List.map_cons, Text.below_cons,
    Text.below_cons, List.map_append, Text.below_append, List.append_cons,
    List.append_cons "".toList, ← List.append_assoc, toList_escapeQuotes _ _
      "Use the AskUserQuestion tool:\n\n- Question: " (by decide)]

/-! ## Attributes -/

/-- The quoted texts of attributes. The first of them stands behind `lead`. -/
def attributeQuotations (lead : String) : List (String × Content) → Emission (List Quotation)
  | [] => .done []
  | (name, content) :: rest => do
    let text ← Emission.content content
    let others ← attributeQuotations "" rest
    return ⟨lead ++ " " ++ name ++ "=", text⟩ :: others

private theorem toList_attributeText (lead name text : String) (rest : List Char) :
    lead.toList ++ ((attributeText name text).toList ++ rest) =
      (lead ++ " " ++ name ++ "=").toList ++
        '"' :: (text.toList.flatMap attributeChar ++ '"' :: rest) := by
  simp [attributeText, escapeAttribute_eq]

private theorem exists_weave_of_attributesText {attributes : List (String × Content)}
    {text : String} (h : (attributesText attributes).eval tool = .ok text) (lead : String)
    (rest : List Char) :
    ∃ found tail, (attributeQuotations lead attributes).eval tool = .ok found ∧
      lead.toList ++ (text.toList ++ rest) = Quoting.entities.weave found tail := by
  induction attributes generalizing lead text with
  | nil =>
    cases h
    exact ⟨[], _, rfl, rfl⟩
  | cons first others ih =>
    obtain ⟨value, hvalue, h⟩ := exists_of_eval_bind h
    obtain ⟨more, hmore, h⟩ := exists_of_eval_bind h
    obtain ⟨found, tail, hfound, hweave⟩ := ih hmore ""
    refine ⟨⟨lead ++ " " ++ first.1 ++ "=", value⟩ :: found, tail, ?_, ?_⟩
    · simp [attributeQuotations, Emission.eval_bind, hvalue, hfound, Except.bind, Emission.eval]
    · have hrest : more.toList ++ rest = Quoting.entities.weave found tail := hweave
      rw [← Except.ok.inj h, String.toList_append, List.append_assoc, toList_attributeText, hrest]
      rfl

private theorem toList_tagged (opening closing body : String) :
    ∃ rest, (tagged opening closing body).toList = opening.toList ++ rest := by
  rw [tagged]
  split
  · exact ⟨_, by simp only [String.toList_append, List.append_assoc]; rfl⟩
  · exact ⟨_, by simp only [String.toList_append, List.append_assoc]; rfl⟩

private theorem exists_weave_of_tagged {attributes : List (String × Content)} {text : String}
    (h : (attributesText attributes).eval tool = .ok text) (lead closing body : String) :
    ∃ found tail, (attributeQuotations lead attributes).eval tool = .ok found ∧
      (tagged (lead ++ text ++ ">") closing body).toList = Quoting.entities.weave found tail := by
  obtain ⟨rest, hrest⟩ := toList_tagged (lead ++ text ++ ">") closing body
  obtain ⟨found, tail, hfound, hweave⟩ := exists_weave_of_attributesText h lead ('>' :: rest)
  refine ⟨found, tail, hfound, ?_⟩
  rw [hrest, ← hweave]
  simp

end Markdown

open Markdown in
/-- How a block quotes, and what it has between quotes. -/
def Block.quotations? (config : Config) : Block → Option (Quoting × Emission (List Quotation))
  | .container (.agentSpawn spawn) children => some (.backslashes, do
    let asked ← spawnPrompt config spawn
    let pieces ← Block.emitSequence config {} false children
    return taskQuotations spawn (assembledPrompt spawn asked (stackPieces "\n\n" pieces)))
  | .leaf (.askUser question) => some (.backslashes, do
    return questionQuotations question (← Emission.content question.question))
  | .container (.xmlBlock name attributes) _ =>
    some (.entities, attributeQuotations ("<" ++ name) attributes)
  | .container (.step number name .xml) _ =>
    some (.entities, attributeQuotations "<step" [("number", .text number), ("name", .text name)])
  | _ => none

namespace Markdown

variable {tool : String}

/-- A block that quotes is its quotations, woven together. -/
theorem exists_weave_of_emit {config : Config} {state : EmitState} {block : Block}
    {quoting : Quoting} {fields : Emission (List Quotation)}
    (hblock : block.quotations? config = some (quoting, fields)) {text : String}
    (h : (block.emit config state).eval tool = .ok text) :
    ∃ found tail, fields.eval tool = .ok found ∧ text.toList = quoting.weave found tail := by
  match block with
  | .container (.agentSpawn spawn) children =>
    cases hblock
    rw [emit_agentSpawn] at h
    obtain ⟨asked, hasked, h⟩ := exists_of_eval_bind h
    obtain ⟨pieces, hpieces, h⟩ := exists_of_eval_bind h
    obtain ⟨tail, htail⟩ := exists_weave_of_finishSpawn h
    refine ⟨_, tail, ?_, htail⟩
    simp [Emission.eval_bind, hasked, hpieces, Except.bind, Emission.eval]
  | .leaf (.askUser question) =>
    cases hblock
    obtain ⟨asked, tail, hasked, htail⟩ := exists_weave_of_emitQuestion h
    refine ⟨_, tail, ?_, htail⟩
    simp [Emission.eval_bind, hasked, Except.bind, Emission.eval]
  | .container (.xmlBlock name attributes) children =>
    cases hblock
    rw [Block.emit] at h
    obtain ⟨frame, hframe, h⟩ := exists_of_eval_bind h
    obtain ⟨attrs, hattrs, hframe⟩ := exists_of_eval_bind hframe
    obtain ⟨pieces, -, h⟩ := exists_of_eval_bind h
    rw [← Except.ok.inj hframe] at h
    rw [← Except.ok.inj h]
    exact exists_weave_of_tagged hattrs ("<" ++ name) _ _
  | .container (.step number name .xml) children =>
    cases hblock
    rw [Block.emit] at h
    obtain ⟨frame, hframe, h⟩ := exists_of_eval_bind h
    obtain ⟨pieces, -, h⟩ := exists_of_eval_bind h
    rw [← Except.ok.inj hframe] at h
    have hattrs : (attributesText [("number", .text number), ("name", .text name)]).eval tool =
        .ok (attributeText "number" number ++ attributeText "name" name) := by
      simp only [attributesText, Emission.content, Emission.done_bind, Emission.pure_eq,
        Emission.eval, String.append_empty]
    have hopening : "<step" ++ attributeText "number" number ++ attributeText "name" name =
        "<step" ++ (attributeText "number" number ++ attributeText "name" name) :=
      String.append_assoc
    rw [← Except.ok.inj h, Frame.around, stepText, hopening]
    exact exists_weave_of_tagged hattrs "<step" _ _

/-- The texts in front of the quotations of a call and of a step are fixed. -/
theorem quote_notMem_lead {config : Config} {block : Block} {quoting : Quoting}
    {fields : Emission (List Quotation)} {found : List Quotation}
    (hblock : block.quotations? config = some (quoting, fields))
    (hkind : block.kind = .agentSpawn ∨ block.kind = .step)
    (hfound : fields.eval tool = .ok found) :
    ∀ field ∈ found, '"' ∉ field.lead.toList := by
  match block with
  | .container (.agentSpawn spawn) children =>
    cases hblock
    obtain ⟨asked, -, hfound⟩ := exists_of_eval_bind hfound
    obtain ⟨pieces, -, hfound⟩ := exists_of_eval_bind hfound
    rw [← Except.ok.inj hfound, taskQuotations]
    simp only [List.forall_mem_cons]
    exact ⟨by decide, by decide, by decide, by decide, by simp⟩
  | .container (.step number name .xml) children =>
    cases hblock
    rw [← Except.ok.inj hfound]
    simp only [List.forall_mem_cons]
    exact ⟨by decide, by decide, by simp⟩
  | .leaf (.askUser question) => simp [Block.kind, Leaf.kind] at hkind
  | .container (.xmlBlock name attributes) children => simp [Block.kind, Container.kind] at hkind

/-- **Quoted fields are read back.** Whoever reads a block from the label of each of its quoted
fields up to the next quote without an active backslash, and undoes the escapes, gets the texts of
the fields: for the call of an agent the whole prompt, the name, the model and the description, for
a question what is asked, the header and the label and value of each option. The attributes of a tag
are read in the same way up to the next quote. A reader who only looks for quotes finds the same
texts behind the same labels, in calls and steps all of them, and elsewhere up to a description or a
name that itself holds a quote. -/
theorem readFields_emit (config : Config) (state : EmitState) (block : Block) (quoting : Quoting)
    (fields : Emission (List Quotation))
    (hblock : block.quotations? config = some (quoting, fields)) (tool : String) (cache : Cache)
    (hcache : cache.Sound tool) (text : String)
    (h : ((block.emit config state).run tool cache).1 = .ok text) :
    ∃ found tail, (fields.run tool cache).1 = .ok found ∧
      quoting.readFields (found.map Quotation.lead) text.toList =
        some (found.map Quotation.text, tail) ∧
      found.takeWhile (fun field ↦ '"' ∉ field.lead.toList) <+: quoting.quotations text.toList ∧
      (block.kind = .agentSpawn ∨ block.kind = .step →
        found <+: quoting.quotations text.toList) := by
  rw [(Emission.run_of_sound _ hcache).1] at h
  obtain ⟨found, tail, hfound, htext⟩ := exists_weave_of_emit hblock h
  refine ⟨found, tail, ?_, ?_, ?_, ?_⟩
  · rw [(Emission.run_of_sound _ hcache).1, hfound]
  · rw [htext, quoting.readFields_weave]
  · rw [htext]
    exact quoting.takeWhile_prefix_quotations found tail
  · intro hkind
    rw [htext]
    exact quoting.prefix_quotations_weave (quote_notMem_lead hblock hkind hfound) tail

/-- A prompt with quotes that ends like the label of another field, instructions that end in a
backslash, and an attribute that looks escaped already. -/
theorem readFields_emit_labels :
    let spawn : Spawn :=
      { agent := "a", model := "m\\", description := "\"d\"",
        prompt := some (.text "Say \"hi\", model="), loadFromFile := some "role.md" }
    let call : Block := .container (.agentSpawn spawn) [.leaf (.raw "model=\"x\"\\")]
    let tag : Block := .container (.xmlBlock "t" [("of", .text "&quot;\"&amp;")]) []
    let prompt := "First, read role.md for your role and instructions.\n\n" ++
      "Say \"hi\", model=\n\nmodel=\"x\"\\"
    (∃ text tail, ((call.emit {} {}).run "jq" {}).1 = .ok text ∧
      Quoting.backslashes.readFields ((taskQuotations spawn prompt).map Quotation.lead)
        text.toList = some ([prompt, "general-purpose", "m\\", "\"d\""], tail)) ∧
    ∃ text tail, ((tag.emit {} {}).run "jq" {}).1 = .ok text ∧
      Quoting.entities.readFields ["<t of="] text.toList = some (["&quot;\"&amp;"], tail) := by
  intro spawn call tag prompt
  obtain ⟨text, htext⟩ : ∃ text, ((call.emit {} {}).run "jq" {}).1 = .ok text := ⟨_, rfl⟩
  obtain ⟨found, tail, hfound, hread, -, -⟩ :=
    readFields_emit {} {} call _ _ rfl "jq" {} (Cache.sound_empty _) text htext
  obtain ⟨source, hsource⟩ : ∃ text, ((tag.emit {} {}).run "jq" {}).1 = .ok text := ⟨_, rfl⟩
  obtain ⟨attrs, rest, hattrs, hvalues, -, -⟩ :=
    readFields_emit {} {} tag _ _ rfl "jq" {} (Cache.sound_empty _) source hsource
  have hprompt : assembledPrompt spawn "Say \"hi\", model=" "model=\"x\"\\" = prompt := by
    rw [assembledPrompt, join_filter_isEmpty]
    simp [askedText, Prompt.start, spawn, prompt]
  have hcall : taskQuotations spawn
      (assembledPrompt spawn "Say \"hi\", model=" "model=\"x\"\\") = found :=
    Except.ok.inj hfound
  rw [← hcall, hprompt] at hread
  rw [← Except.ok.inj hattrs] at hvalues
  exact ⟨⟨text, tail, htext, hread⟩, source, rest, hsource, hvalues⟩

end Markdown

end Runbook
