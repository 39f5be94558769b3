import Runbook.Proofs.ShellScripts

/-!
# Assignments in the shell

A block of assignments is a script with one command for each assignment. It is read back as these
assignments and nothing else exactly if no comment writes a line that is a command of its own, and
the names of the variables are names in the shell (`settings?_assignments_iff`). A script could
also be read as the same assignments by accident, where a quote that a comment opens hides lines and
what is left looks like them; so each assignment is to be found at the place of its line. What a
literal assigns is the literal, whatever it holds.
-/

namespace Runbook

namespace Shell

/-! ## Assignments of a script -/

/-- A part of a word when the quotes are removed. -/
def Part.unquoted : Part → Part
  | .literal c _ => .literal c false
  | part => part

/-- An assignment that a script makes: the place of its command, the variable, and the value. -/
structure Setting where
  place : Nat
  name : String
  value : List Part
deriving DecidableEq, Repr

/-- What stands in front of the first equals sign of a word, if no quotes do, and what stands
behind it. -/
def splitName? : List Part → Option (List Char × List Part)
  | .literal c false :: rest =>
    if c = '=' then some ([], rest)
    else (splitName? rest).map fun found ↦ (c :: found.1, found.2)
  | _ => none

def Command.setting? (command : Command) : Option Setting :=
  match command.words with
  | [word] => do
    let (name, value) ← splitName? word
    if isPlainName name then
      some ⟨command.place, String.ofList name, value.map Part.unquoted⟩
    else none
  | _ => none

/-- The assignments of a script that consists of assignments. -/
def settings? (text : List Char) : Option (List Setting) :=
  (commands? text).bind fun commands ↦ commands.mapM Command.setting?

end Shell

/-! ## Blocks of assignments -/

namespace Assignment

def name (assignment : Assignment) : String := assignment.variableName.variableName?.getD ""

def line (assignment : Assignment) : String :=
  assignment.name ++ "=" ++ Markdown.assignedText assignment.source assignment.content

/-- What stands above the line that assigns. -/
def remarks (assignment : Assignment) : List String :=
  let comment := assignment.comment.getD ""
  if comment.isEmpty then [] else ["# " ++ comment]

def lines (assignment : Assignment) : List String := assignment.remarks ++ [assignment.line]

/-- What the shell is to assign. -/
def meaning (assignment : Assignment) : List Shell.Part :=
  match assignment.source with
  | .bash => []
  | .env => .dollar :: assignment.content.toList.map .name
  | .value => assignment.content.toList.map (.literal · false)

/-- The names are names in the shell, and no comment writes a command. -/
structure IsPlain (assignment : Assignment) : Prop where
  name : isPlainName assignment.name.toList = true
  env : assignment.source = .env → isPlainName assignment.content.toList = true
  remarks : ∀ remark ∈ assignment.remarks, ∀ line ∈ Text.splitLines remark.toList,
    Shell.isQuiet line = true

end Assignment

/-- The assignments of a block that consists of them. -/
def Block.assignments? : Block → Option (List Assignment)
  | .leaf (.assign assignment) => some [assignment]
  | .leaf (.assignGroup assignments) => some assignments
  | _ => none

namespace Shell

open Markdown

/-- What is written below a line for some assignments. -/
def scriptBelow (assignments : List Assignment) : List Char :=
  Text.below ((assignments.flatMap Assignment.lines).map String.toList)

/-- What a script is to assign, at the places of the lines. -/
def settingsOf : List Assignment → List Setting
  | [] => []
  | assignment :: rest =>
    ⟨(assignment.line.toList ++ scriptBelow rest).length, assignment.name, assignment.meaning⟩ ::
      settingsOf rest

private theorem assignmentLines_eq {assignment : Assignment}
    (h : assignment.variableName.variableName?.isSome = true) :
    assignmentLines assignment = .done assignment.lines := by
  obtain ⟨name, hname⟩ := Option.isSome_iff_exists.mp h
  have hdone : assignmentLines assignment = .done (
      if (assignment.comment.getD "").isEmpty then
        [name ++ "=" ++ assignedText assignment.source assignment.content]
      else ["# " ++ assignment.comment.getD "",
        name ++ "=" ++ assignedText assignment.source assignment.content]) := by
    rw [assignmentLines, variableIn, hname]
    rfl
  rw [hdone, Assignment.lines, Assignment.remarks, Assignment.line, Assignment.name, hname]
  split <;> rfl

private theorem assignmentsLines_eq {assignments : List Assignment}
    (h : ∀ assignment ∈ assignments, assignment.variableName.variableName?.isSome = true) :
    assignmentsLines assignments = .done (assignments.flatMap Assignment.lines) := by
  induction assignments with
  | nil => rfl
  | cons assignment rest ih =>
    obtain ⟨hfirst, hrest⟩ := List.forall_mem_cons.mp h
    rw [assignmentsLines, assignmentLines_eq hfirst, ih hrest]
    rfl

/-- A block of assignments to variables is written. -/
theorem emit_assignments {block : Block} {assignments : List Assignment}
    (hblock : block.assignments? = some assignments)
    (h : ∀ assignment ∈ assignments, assignment.variableName.variableName?.isSome = true)
    (config : Config) (state : EmitState) :
    block.emit config state = .done (shellBlock (assignments.flatMap Assignment.lines)) := by
  match block with
  | .leaf (.assign assignment) =>
    obtain rfl := Option.some.inj hblock
    rw [Block.emit, Leaf.emit, assignmentLines_eq (h _ List.mem_cons_self), List.flatMap_singleton]
    rfl
  | .leaf (.assignGroup assignments) =>
    obtain rfl := Option.some.inj hblock
    rw [Block.emit, Leaf.emit, assignmentsLines_eq h]
    rfl

private theorem scriptBelow_append (before behind : List Assignment) :
    scriptBelow (before ++ behind) = scriptBelow before ++ scriptBelow behind := by
  rw [scriptBelow, List.flatMap_append, List.map_append, Text.below_append]
  rfl

private theorem scriptBelow_cons (assignment : Assignment) (rest : List Assignment) :
    scriptBelow (assignment :: rest) = Text.below (assignment.remarks.map String.toList) ++
      '\n' :: (assignment.line.toList ++ scriptBelow rest) := by
  rw [scriptBelow, List.flatMap_cons, Assignment.lines, List.append_assoc, List.map_append,
    Text.below_append]
  rfl

private theorem atLineEnd_scriptBelow (assignments : List Assignment) {rest : List Char}
    (h : AtLineEnd rest) : AtLineEnd (scriptBelow assignments ++ rest) := by
  rw [scriptBelow]
  cases assignments.flatMap Assignment.lines with
  | nil => exact h
  | cons line lines =>
    intro c hc
    exact (Option.some.inj hc).symm

private theorem toList_shellBlock {assignments : List Assignment} (h : assignments ≠ []) :
    (shellBlock (assignments.flatMap Assignment.lines)).toList =
      "```bash".toList ++ (scriptBelow assignments ++ "\n```".toList) := by
  obtain ⟨assignment, rest, rfl⟩ := List.exists_cons_of_ne_nil h
  obtain ⟨line, lines, hlines⟩ : ∃ line lines,
      (assignment :: rest).flatMap Assignment.lines = line :: lines :=
    List.exists_cons_of_ne_nil (by simp [Assignment.lines])
  rw [scriptBelow, hlines, shellBlock, String.toList_append, String.toList_append,
    Text.toList_join_cons, List.map_cons, Text.below_cons]
  simp

/-! ## Literals -/

private theorem toList_line (assignment : Assignment) :
    assignment.line.toList = assignment.name.toList ++
      '=' :: (assignedText assignment.source assignment.content).toList := by
  simp [Assignment.line]

/-- **A literal assigns the literal.** Whatever a literal holds, the shell reads what stands behind
the equals sign as one word, up to the end of the line or the lines that the literal takes. Nothing
is expanded in it, and without its quotes it is the literal. -/
theorem word?_assigned_literal (config : Config) (state : EmitState) (block : Block)
    (before : List Assignment) (assignment : Assignment) (behind : List Assignment)
    (hblock : block.assignments? = some (before ++ assignment :: behind))
    (hvariables : ∀ other ∈ before ++ assignment :: behind,
      other.variableName.variableName?.isSome = true)
    (hsource : assignment.source = .value) (tool : String) (cache : Cache) :
    ∃ text rest quoted, ((block.emit config state).run tool cache).1 = .ok text ∧
      text.toList = "```bash".toList ++ scriptBelow before ++
        Text.below (assignment.remarks.map String.toList) ++
          '\n' :: (assignment.name.toList ++ '=' :: rest) ∧
      word? (.bare .word) rest = some (assignment.content.toList.map (.literal · quoted),
        scriptBelow behind ++ "\n```".toList) := by
  obtain ⟨quoted, hsteps⟩ := steps_shellLiteral assignment.content
  have hend : AtLineEnd (scriptBelow behind ++ "\n```".toList) :=
    atLineEnd_scriptBelow behind fun c hc ↦ (Option.some.inj hc).symm
  refine ⟨shellBlock ((before ++ assignment :: behind).flatMap Assignment.lines),
    (shellLiteral assignment.content).toList ++ (scriptBelow behind ++ "\n```".toList), quoted,
    ?_, ?_, ?_⟩
  · rw [emit_assignments hblock hvariables, Emission.run]
  · rw [toList_shellBlock (by simp), scriptBelow_append, scriptBelow_cons, toList_line, hsource,
      assignedText]
    simp only [List.append_assoc, List.cons_append]
  · rw [hsteps.word?_append, word?_of_atLineEnd hend (.inl rfl), Option.map_some, List.append_nil]

/-- Quotes, an expansion, a command and a line break in one literal, below another assignment. -/
theorem word?_assigned_literal_quotes :
    let content := "it's \"$HOME\"\n`date` # \\"
    let other : Assignment := ⟨.text "A", .env, "HOME", none⟩
    let assignment : Assignment := ⟨.text "X", .value, content, some "note"⟩
    let block : Block := .leaf (.assignGroup [other, assignment])
    block.assignments? = some ([other] ++ assignment :: []) ∧
      (∀ a ∈ [other] ++ assignment :: [], a.variableName.variableName?.isSome = true) ∧
      assignment.source = .value ∧
      ∃ text rest quoted, ((block.emit {} {}).run "jq" {}).1 = .ok text ∧
        text.toList = "```bash\nA=$HOME\n# note\nX=".toList ++ rest ∧
        word? (.bare .word) rest =
          some (content.toList.map (.literal · quoted), "\n```".toList) := by
  intro content other assignment block
  have hvariables : ∀ a ∈ [other] ++ assignment :: [],
      a.variableName.variableName?.isSome = true := by
    simp only [List.cons_append, List.nil_append, List.forall_mem_cons]
    exact ⟨by decide, by decide, by simp⟩
  obtain ⟨text, rest, quoted, htext, hrest, hword⟩ :=
    word?_assigned_literal {} {} block [other] assignment [] rfl hvariables rfl "jq" {}
  have hfront : "```bash".toList ++ scriptBelow [other] ++
      Text.below (assignment.remarks.map String.toList) ++
        '\n' :: (assignment.name.toList ++ ['=']) = "```bash\nA=$HOME\n# note\nX=".toList := by
    decide
  refine ⟨rfl, hvariables, rfl, text, rest, quoted, htext, ?_, hword⟩
  rw [hrest, ← hfront]
  simp

/-! ## Lines that assign -/

/-- The parts of a variable and of the equals sign behind it. -/
def nameParts (name : List Char) : List Part := (name ++ ['=']).map fun c ↦ .literal c false

private theorem splitName?_append {name : List Char} (h : '=' ∉ name) (rest : List Part) :
    splitName? (nameParts name ++ rest) = some (name, rest) := by
  induction name with
  | nil => rfl
  | cons c name ih =>
    rw [List.mem_cons, not_or] at h
    rw [nameParts, List.cons_append, List.map_cons, List.cons_append, splitName?,
      if_neg (Ne.symm h.1), ← nameParts, ih h.2, Option.map_some]

private theorem setting?_word {name : List Char} (h : isPlainName name = true) (place : Nat)
    (value : List Part) :
    Command.setting? ⟨place, [nameParts name ++ value]⟩ =
      some ⟨place, String.ofList name, value.map Part.unquoted⟩ := by
  have hname : '=' ∉ name := by
    intro hmem
    have hc := List.all_eq_true.mp (all_isBareChar_of_isPlainName h) '=' hmem
    exact absurd hc (by decide)
  simp [Command.setting?, splitName?_append hname, h]

private theorem of_setting?_eq_some {command : Command} {setting : Setting}
    (h : command.setting? = some setting) :
    command.place = setting.place ∧ isPlainName setting.name.toList = true := by
  rw [Command.setting?] at h
  split at h
  · obtain ⟨⟨name, value⟩, -, h⟩ := Option.bind_eq_some_iff.mp h
    dsimp only at h
    split at h
    · next hname =>
      cases h
      exact ⟨rfl, by rwa [String.toList_ofList]⟩
    · cases h
  · cases h

/-- The value of an assignment is read as what it means. -/
theorem exists_steps_assignedText {assignment : Assignment} (hsource : assignment.source ≠ .bash)
    (henv : assignment.source = .env → isPlainName assignment.content.toList = true) :
    ∃ parts last, Steps (.bare .word)
        (assignedText assignment.source assignment.content).toList parts last ∧
      (last = .bare .word ∨ last = .name) ∧ parts.map Part.unquoted = assignment.meaning := by
  cases hcase : assignment.source with
  | bash => exact absurd hcase hsource
  | env =>
    have htext : (assignedText .env assignment.content).toList =
        '$' :: assignment.content.toList := by
      simp [assignedText]
    rw [htext, Assignment.meaning, hcase]
    refine ⟨.dollar :: assignment.content.toList.map .name, .name, ?_, .inr rfl, ?_⟩
    · exact .take rfl rfl (steps_of_isPlainName (henv hcase))
    · simp [Part.unquoted, Function.comp_def]
  | value =>
    obtain ⟨quoted, hsteps⟩ := steps_shellLiteral assignment.content
    rw [Assignment.meaning, hcase]
    exact ⟨_, _, hsteps, .inl rfl, by simp [Part.unquoted, Function.comp_def]⟩

/-- A line that assigns begins with a name. -/
theorem exists_of_isPlainName {name : List Char} (h : isPlainName name = true) :
    ∃ c rest, name = c :: rest ∧ isWordChar c = true ∧ rest.all isWordChar = true := by
  have hall := all_isBareChar_of_isPlainName h
  cases name with
  | nil => cases h
  | cons c rest =>
    rw [List.all_cons, Bool.and_eq_true] at hall
    refine ⟨c, rest, rfl, isWordChar_of_isBareChar hall.1, ?_⟩
    rw [List.all_eq_true] at hall ⊢
    exact fun d hd ↦ isWordChar_of_isBareChar (hall.2 d hd)

private theorem steps_name {name : List Char} (h : name.all isWordChar = true) :
    Steps (.bare .word) (name ++ ['=']) (nameParts name) (.bare .word) := by
  apply steps_of_all_isWordChar
  rw [List.all_append, h]
  decide

/-- The line of an assignment is a command that assigns. -/
theorem exists_command_line {assignment : Assignment}
    (hname : isPlainName assignment.name.toList = true) (hsource : assignment.source ≠ .bash)
    (henv : assignment.source = .env → isPlainName assignment.content.toList = true)
    {rest : List Char} (hrest : AtLineEnd rest) :
    ∃ command : Command, commands? (assignment.line.toList ++ rest) =
        (commands? rest).map (command :: ·) ∧
      command.setting? = some ⟨(assignment.line.toList ++ rest).length, assignment.name,
        assignment.meaning⟩ := by
  obtain ⟨c, name, hcons, hc, hall⟩ := exists_of_isPlainName hname
  obtain ⟨parts, last, hsteps, hlast, hmeaning⟩ := exists_steps_assignedText hsource henv
  have hline : assignment.line.toList ++ rest =
      c :: (((name ++ ['=']) ++ (assignedText assignment.source assignment.content).toList) ++
        rest) := by
    rw [toList_line, hcons]
    simp
  have hcommands := commands?_word hc ((steps_name hall).append hsteps) hlast hrest
  rw [← hline] at hcommands
  refine ⟨_, hcommands, ?_⟩
  have hword : Part.literal c false :: (nameParts name ++ parts) =
      nameParts assignment.name.toList ++ parts := by
    rw [hcons]
    rfl
  rw [hword, setting?_word hname, hmeaning, String.ofList_toList]

/-! ## Comments -/

private theorem commands?_remarks {assignment : Assignment}
    (h : ∀ remark ∈ assignment.remarks, ∀ line ∈ Text.splitLines remark.toList,
      isQuiet line = true) (rest : List Char) :
    commands? (Text.below (assignment.remarks.map String.toList) ++ '\n' :: rest) =
      commands? rest := by
  rw [Assignment.remarks] at h ⊢
  split
  · exact commands?_feed rest
  · next hcomment =>
    rw [if_neg hcomment, List.forall_mem_singleton] at h
    rw [List.map_singleton, Text.below_cons, Text.below, List.flatMap_nil, List.append_nil,
      List.cons_append, commands?_feed, commands?_append_of_forall_isQuiet h]

private theorem exists_command_remarks {assignment : Assignment}
    (h : ∃ remark ∈ assignment.remarks, ∃ line ∈ Text.splitLines remark.toList,
      isQuiet line = false) {rest : List Char} {found : List Command}
    (hfound : commands? (Text.below (assignment.remarks.map String.toList) ++ '\n' :: rest) =
      some found) :
    ∃ first others, found = first :: others ∧ rest.length < first.place := by
  rw [Assignment.remarks] at h hfound
  split at h
  · obtain ⟨remark, hmem, -⟩ := h
    cases hmem
  · next hcomment =>
    obtain ⟨remark, hmem, hloud⟩ := h
    obtain rfl := List.mem_singleton.mp hmem
    rw [if_neg hcomment, List.map_singleton, Text.below_cons, Text.below, List.flatMap_nil,
      List.append_nil, List.cons_append, commands?_feed] at hfound
    exact exists_command_of_exists_not_isQuiet hloud hfound

/-! ## Variables of the environment -/

private theorem eq_map_name_of_unquoted {parts : List Part} {name : List Char}
    (h : parts.map Part.unquoted = name.map .name) : parts = name.map .name := by
  induction parts generalizing name with
  | nil => rwa [List.map_nil] at h
  | cons part rest ih =>
    obtain ⟨c, others, rfl, hpart, hrest⟩ := List.map_eq_cons_iff.mp h.symm
    rw [List.map_cons, ← ih hrest.symm]
    cases part with
    | literal d quoted => cases hpart
    | dollar => cases hpart
    | name d => rw [hpart]; rfl

private theorem words_of_setting? {place : Nat} {word : List Part} {words : List (List Part)}
    {setting : Setting} (h : Command.setting? ⟨place, word :: words⟩ = some setting) :
    words = [] := by
  cases words with
  | nil => rfl
  | cons next more => cases h

/-- A variable of the environment that is read as such has a plain name. -/
theorem isPlainName_of_setting? {assignment : Assignment}
    (hname : isPlainName assignment.name.toList = true) (hsource : assignment.source = .env)
    {rest : List Char} {command : Command} {others : List Command} {place : Nat}
    (hcommands : commands? (assignment.line.toList ++ rest) = some (command :: others))
    (hsetting : command.setting? = some ⟨place, assignment.name, assignment.meaning⟩) :
    isPlainName assignment.content.toList = true := by
  obtain ⟨c, name, hcons, hc, hall⟩ := exists_of_isPlainName hname
  have hline : assignment.line.toList ++ rest =
      c :: ((name ++ ['='] ++ ['$']) ++ (assignment.content.toList ++ rest)) := by
    rw [toList_line, hcons, hsource]
    simp [assignedText]
  have hdollar : Steps (.bare .word) ['$'] [.dollar] .expansion := .take rfl rfl (.nil _)
  rw [commands?, hline, scan_word hc ((steps_name hall).append hdollar),
    Option.map_map] at hcommands
  obtain ⟨reading, hreading, hcommand⟩ := Option.map_eq_some_iff.mp hcommands
  obtain ⟨rfl, -⟩ := List.cons.inj hcommand
  have hwords : reading.words = [] := words_of_setting? hsetting
  have hword : (reading.prepend (.literal c false :: (nameParts name ++ [.dollar]))).parts =
      nameParts assignment.name.toList ++ .dollar :: reading.parts := by
    rw [hcons, Reading.prepend, List.cons_append, List.append_assoc]
    rfl
  change Command.setting? ⟨_, _ :: reading.words⟩ = _ at hsetting
  rw [hwords, hword, setting?_word hname] at hsetting
  have hvalue := congrArg Setting.value (Option.some.inj hsetting)
  rw [Assignment.meaning, hsource] at hvalue
  exact isPlainName_of_scan hreading (eq_map_name_of_unquoted (List.cons.inj hvalue).2)

/-! ## Whole blocks -/

private theorem settings?_of_commands? {text : List Char} {command : Command}
    {commands : List Command} {setting : Setting} {settings : List Setting}
    (hcommands : commands? text = some (command :: commands)) :
    settings? text = some (setting :: settings) ↔
      command.setting? = some setting ∧ commands.mapM Command.setting? = some settings := by
  rw [settings?, hcommands, Option.bind_some, List.mapM_cons]
  simp [Option.bind_eq_some_iff]

private theorem settings?_scriptBelow_cons {assignment : Assignment} {rest : List Assignment}
    (hsource : assignment.source ≠ .bash) :
    settings? (scriptBelow (assignment :: rest)) = some (settingsOf (assignment :: rest)) ↔
      assignment.IsPlain ∧ settings? (scriptBelow rest) = some (settingsOf rest) := by
  have hrest : AtLineEnd (scriptBelow rest) := by
    rw [← List.append_nil (scriptBelow rest)]
    exact atLineEnd_scriptBelow rest fun c hc ↦ nomatch hc
  rw [settingsOf, scriptBelow_cons]
  constructor
  · intro h
    obtain ⟨found, hfound, hmap⟩ := Option.bind_eq_some_iff.mp h
    obtain ⟨command, commands, rfl⟩ : ∃ command commands, found = command :: commands := by
      cases found with
      | nil => cases hmap
      | cons command commands => exact ⟨command, commands, rfl⟩
    obtain ⟨hsetting, hmore⟩ := (settings?_of_commands? hfound).mp h
    obtain ⟨hplace, hname⟩ := of_setting?_eq_some hsetting
    -- A comment that is not quiet would begin a command in front of the line.
    have hquiet : ∀ remark ∈ assignment.remarks, ∀ line ∈ Text.splitLines remark.toList,
        isQuiet line = true := by
      intro remark hremark line hline
      by_contra hloud
      obtain ⟨first, others, hfirst, hbefore⟩ := exists_command_remarks
        ⟨remark, hremark, line, hline, Bool.eq_false_iff.mpr hloud⟩ hfound
      rw [← (List.cons.inj hfirst).1, hplace] at hbefore
      exact Nat.lt_irrefl _ hbefore
    rw [commands?_remarks hquiet] at hfound
    have henv : assignment.source = .env → isPlainName assignment.content.toList = true :=
      fun henv ↦ isPlainName_of_setting? hname henv hfound hsetting
    obtain ⟨line, hline, -⟩ := exists_command_line hname hsource henv hrest
    rw [hfound] at hline
    obtain ⟨below, hbelow, hcons⟩ := Option.map_eq_some_iff.mp hline.symm
    refine ⟨⟨hname, henv, hquiet⟩, ?_⟩
    rw [settings?, hbelow, (List.cons.inj hcons).2]
    exact hmore
  · rintro ⟨hplain, hsettings⟩
    obtain ⟨command, hline, hsetting⟩ := exists_command_line hplain.name hsource hplain.env hrest
    obtain ⟨commands, hcommands, hmap⟩ := Option.bind_eq_some_iff.mp hsettings
    rw [hcommands] at hline
    have hfound := (commands?_remarks hplain.remarks _).trans hline
    exact (settings?_of_commands? hfound).mpr ⟨hsetting, hmap⟩

private theorem settings?_scriptBelow {assignments : List Assignment}
    (hsource : ∀ assignment ∈ assignments, assignment.source ≠ .bash) :
    settings? (scriptBelow assignments) = some (settingsOf assignments) ↔
      ∀ assignment ∈ assignments, assignment.IsPlain := by
  induction assignments with
  | nil => exact ⟨fun _ _ hmem ↦ absurd hmem List.not_mem_nil, fun _ ↦ rfl⟩
  | cons assignment rest ih =>
    obtain ⟨hfirst, hrest⟩ := List.forall_mem_cons.mp hsource
    rw [settings?_scriptBelow_cons hfirst, ih hrest, List.forall_mem_cons]

/-- The body of a block of assignments is what is written for them, one below the other. -/
theorem settings?_body (assignments : List Assignment) :
    settings? (Text.join "\n" (assignments.flatMap Assignment.lines)).toList =
      settings? (scriptBelow assignments) := by
  rw [scriptBelow]
  cases assignments.flatMap Assignment.lines with
  | nil => rfl
  | cons line lines =>
    rw [Text.toList_join_cons, List.map_cons, Text.below_cons, settings?, settings?, commands?_feed]

/-- **A block of assignments is read as its assignments unless a comment writes a command.** The
shell reads the body of the block as one command for each assignment, at the place of its line, that
assigns the literal or the variable of the environment, and as no other command, if and only if each
line that a comment writes is a comment itself, blank, or only a backslash, and each variable has a
name of the shell. -/
theorem settings?_assignments_iff (config : Config) (state : EmitState) (block : Block)
    (assignments : List Assignment) (hblock : block.assignments? = some assignments)
    (hvariables : ∀ assignment ∈ assignments,
      assignment.variableName.variableName?.isSome = true)
    (hsource : ∀ assignment ∈ assignments, assignment.source ≠ .bash) (tool : String)
    (cache : Cache) :
    ∃ text body, ((block.emit config state).run tool cache).1 = .ok text ∧ IsFenced text body ∧
      (settings? body.toList = some (settingsOf assignments) ↔
        ∀ assignment ∈ assignments, assignment.IsPlain) := by
  refine ⟨shellBlock (assignments.flatMap Assignment.lines),
    Text.join "\n" (assignments.flatMap Assignment.lines), ?_, isFenced_shellBlock _, ?_⟩
  · rw [emit_assignments hblock hvariables, Emission.run]
  · rw [settings?_body, settings?_scriptBelow hsource]

/-- Comments with further lines that are quiet, and a literal with a line that looks like a
comment. -/
theorem settings?_assignments_iff_quiet :
    let first : Assignment := ⟨.text "X", .value, "it's\n# $Y", some "note\n\n  # more\n\\"⟩
    let second : Assignment := ⟨.staged ⟨"Y", []⟩, .env, "HOME", some "# note"⟩
    let block : Block := .leaf (.assignGroup [first, second])
    block.assignments? = some [first, second] ∧
      (∀ assignment ∈ [first, second], assignment.variableName.variableName?.isSome = true ∧
        assignment.source ≠ .bash ∧ assignment.IsPlain) ∧
      ∃ text body, ((block.emit {} {}).run "jq" {}).1 = .ok text ∧ IsFenced text body ∧
        settings? body.toList = some (settingsOf [first, second]) := by
  intro first second block
  have hplain : ∀ assignment ∈ [first, second],
      assignment.variableName.variableName?.isSome = true ∧
        assignment.source ≠ .bash ∧ assignment.IsPlain := by
    simp only [List.forall_mem_cons]
    exact ⟨⟨by decide, by decide, by decide, by decide, by decide⟩,
      ⟨by decide, by decide, by decide, by decide, by decide⟩, by simp⟩
  obtain ⟨text, body, htext, hfenced, hiff⟩ := settings?_assignments_iff {} {} block
    [first, second] rfl (fun a ha ↦ (hplain a ha).1) (fun a ha ↦ (hplain a ha).2.1) "jq" {}
  exact ⟨rfl, hplain, text, body, htext, hfenced, hiff.mpr fun a ha ↦ (hplain a ha).2.2⟩

/-- The second line of a comment is a command: nothing is wrong with the document, and whoever runs
the block removes a directory. -/
theorem commands?_comment_command :
    let assignment : Assignment := ⟨.text "X", .value, "1", some "note\nrm -rf build"⟩
    let document : Document := { children := [.leaf (.assign assignment)] }
    let body := "# note\nrm -rf build\nX=1"
    let word : String → List Part := fun text ↦ text.toList.map (.literal · false)
    document.validate = .ok () ∧
      (({} : Emitter).emit document).1.toOption = some ("```bash\n" ++ body ++ "\n```\n") ∧
      commands? body.toList =
        some [⟨16, [word "rm", word "-rf", word "build"]⟩, ⟨3, [word "X=1"]⟩] ∧
      settings? body.toList = none := by
  refine ⟨rfl, ?_, ?_, ?_⟩
  · decide
  · decide
  · decide

end Shell

end Runbook
