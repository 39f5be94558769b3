import Runbook.Proofs.ShellWords

/-!
# Scripts of the shell

A script is read by the machine for words, which also tells where words and commands begin. Each
command is kept with its place, so that a command can be found where it was written.

Between two commands stand lines without a command: blank lines, comments, and lines that a
backslash joins to the next one. All that a reader has to know of a line is whether it is such a
quiet line (`commands?_append_of_isQuiet`, `exists_command_of_not_isQuiet`).
-/

namespace Runbook

/-- A text is a line, or a line and a text below it. -/
@[elab_as_elim]
theorem Text.lines_induction {motive : List Char → Prop}
    (last : ∀ line, '\n' ∉ line → motive line)
    (more : ∀ line rest, '\n' ∉ line → motive rest → motive (line ++ '\n' :: rest))
    (text : List Char) : motive text := by
  suffices h : ∀ front, '\n' ∉ front → motive (front ++ text) from h [] List.not_mem_nil
  induction text with
  | nil =>
    intro front hfront
    rw [List.append_nil]
    exact last front hfront
  | cons c rest ih =>
    intro front hfront
    by_cases hc : c = '\n'
    · rw [hc]
      exact more front rest hfront (ih [] List.not_mem_nil)
    · rw [List.append_cons]
      exact ih (front ++ [c]) (by simp [hfront, Ne.symm hc])

namespace Shell

/-! ## Readings -/

/-- A command: how many characters are left of the script where it begins, and its words. -/
structure Command where
  place : Nat
  words : List (List Part)
deriving DecidableEq, Repr

/-- What is read from some place on: the rest of the word that stands there, the further words of
its command, and the commands behind it. -/
structure Reading where
  parts : List Part := []
  words : List (List Part) := []
  commands : List Command := []
deriving DecidableEq, Repr

namespace Reading

/-- A reading with more of the first word. -/
def prepend (parts : List Part) (reading : Reading) : Reading :=
  { reading with parts := parts ++ reading.parts }

/-- The reading in front of a word that begins at `position`. -/
def begin (position : Position) (place : Nat) (reading : Reading) : Reading :=
  match position with
  | .word => reading
  | .gap => { reading with parts := [], words := reading.parts :: reading.words }
  | .line => ⟨[], [], ⟨place, reading.parts :: reading.words⟩ :: reading.commands⟩

end Reading

/-- How many characters of a word are read before it is known to have begun. -/
def Mode.lag : Mode → Nat
  | .escaped _ => 1
  | _ => 0

/-- Reads a script. -/
def scan : Mode → List Char → Option Reading
  | mode, [] => if mode.isFinal then some {} else none
  | mode, c :: rest =>
    match step mode c with
    | none => none
    | some (part, next) =>
      (scan next rest).map fun reading ↦
        let whole := reading.prepend part.toList
        if next.isInside then whole.begin mode.position (rest.length + 1 + mode.lag) else whole

def commands? (text : List Char) : Option (List Command) :=
  (scan (.bare .line) text).map Reading.commands

@[simp] theorem Reading.prepend_nil (reading : Reading) : reading.prepend [] = reading := rfl

private theorem scan_of_step {mode next : Mode} {c : Char} {part : Option Part}
    (hstep : step mode c = some (part, next)) (hnext : next.isInside = true) (rest : List Char) :
    scan mode (c :: rest) = (scan next rest).map fun reading ↦
      (reading.prepend part.toList).begin mode.position (rest.length + 1 + mode.lag) := by
  simp [scan, hstep, hnext]

private theorem scan_of_skip {mode next : Mode} {c : Char} (hstep : step mode c = some (none, next))
    (hnext : next.isInside = false) (rest : List Char) :
    scan mode (c :: rest) = scan next rest := by
  simp [scan, hstep, hnext]

/-- Inside a word a run of the machine adds its parts to the word. -/
theorem Steps.scan_append {mode next : Mode} {text : List Char} {parts : List Part}
    (h : Steps mode text parts next) (hmode : mode.isInside = true) (rest : List Char) :
    scan mode (text ++ rest) = (scan next rest).map (Reading.prepend parts) := by
  induction h with
  | nil mode =>
    rw [List.nil_append, show Reading.prepend [] = id from rfl, Option.map_id_apply]
  | skip hstep hnext _ ih =>
    rw [List.cons_append, scan_of_step hstep hnext, ih hnext, Mode.position_of_isInside hmode,
      Option.map_map]
    rfl
  | take hstep hnext _ ih =>
    rw [List.cons_append, scan_of_step hstep hnext, ih hnext, Mode.position_of_isInside hmode,
      Option.map_map]
    rfl

/-! ## Between commands -/

/-- Before a command a step begins a word, or it leaves nothing behind. -/
theorem step_of_line {mode next : Mode} {c : Char} {part : Option Part}
    (hmode : mode.position = .line) (h : step mode c = some (part, next)) :
    next.isInside = true ∨ part = none ∧ next.position = .line := by
  cases mode with
  | bare position =>
    obtain rfl : position = .line := hmode
    rcases bareStep_cases h with ⟨-, rfl, rfl⟩ | ⟨-, rfl, rfl⟩ | ⟨-, rfl, rfl⟩ | ⟨-, rfl, rfl⟩ |
      ⟨hnext, -⟩
    · exact .inr ⟨rfl, rfl⟩
    · exact .inr ⟨rfl, rfl⟩
    · exact .inr ⟨rfl, rfl⟩
    · exact .inr ⟨rfl, rfl⟩
    · exact .inl hnext
  | escaped position =>
    obtain rfl : position = .line := hmode
    simp only [step] at h
    split at h
    · cases h; exact .inr ⟨rfl, rfl⟩
    · cases h; exact .inl rfl
  | comment =>
    cases h
    refine .inr ⟨rfl, ?_⟩
    split <;> rfl
  | quoted => cases hmode
  | expansion => cases hmode
  | name => cases hmode

private theorem eq_of_scan_line {mode : Mode} (hmode : mode.position = .line) {text : List Char}
    {reading : Reading} (h : scan mode text = some reading) :
    reading.parts = [] ∧ reading.words = [] := by
  induction text generalizing mode reading with
  | nil =>
    rw [scan] at h
    split at h
    · cases h; exact ⟨rfl, rfl⟩
    · cases h
  | cons c rest ih =>
    cases hstep : step mode c with
    | none => simp [scan, hstep] at h
    | some found =>
      obtain ⟨part, next⟩ := found
      rcases step_of_line hmode hstep with hnext | ⟨rfl, hnext⟩
      · rw [scan_of_step hstep hnext, hmode] at h
        obtain ⟨inner, -, rfl⟩ := Option.map_eq_some_iff.mp h
        exact ⟨rfl, rfl⟩
      · have houtside : next.isInside = false := by rw [Mode.isInside, hnext]; rfl
        rw [scan_of_skip hstep houtside] at h
        exact ih hnext h

theorem commands?_feed (rest : List Char) : commands? ('\n' :: rest) = commands? rest := by
  rw [commands?, scan_of_skip rfl rfl, commands?]

private theorem commands?_blank {c : Char} (h : isBlank c = true) (rest : List Char) :
    commands? (c :: rest) = commands? rest := by
  have hstep : step (.bare .line) c = some (none, .bare .line) := by
    have hne : c ≠ '\n' := by rintro rfl; cases h
    simp [step, bareStep, h, hne]
  rw [commands?, scan_of_skip hstep rfl, commands?]

private theorem scan_comment {line : List Char} (h : '\n' ∉ line) (rest : List Char) :
    scan .comment (line ++ '\n' :: rest) = scan (.bare .line) rest := by
  induction line with
  | nil => exact scan_of_skip rfl rfl rest
  | cons c line ih =>
    rw [List.mem_cons, not_or] at h
    have hstep : step .comment c = some (none, .comment) := by simp [step, Ne.symm h.1]
    rw [List.cons_append, scan_of_skip hstep rfl, ih h.2]

private theorem commands?_comment {line : List Char} (h : '\n' ∉ line) (rest : List Char) :
    commands? ('#' :: (line ++ '\n' :: rest)) = commands? rest := by
  rw [commands?, scan_of_skip rfl rfl, scan_comment h, commands?]

/-! ## Quiet lines -/

/-- A line without a command: a blank one, a comment, or only a backslash that joins it to the next
line. -/
def isQuiet (line : List Char) : Bool :=
  match line.dropWhile isBlank with
  | [] => true
  | c :: rest => c == '#' || c == '\\' && rest.isEmpty

private theorem isQuiet_blank {c : Char} (h : isBlank c = true) (line : List Char) :
    isQuiet (c :: line) = isQuiet line := by
  rw [isQuiet, isQuiet, List.dropWhile_cons_of_pos h]

private theorem isQuiet_cons {c : Char} (h : isBlank c = false) (line : List Char) :
    isQuiet (c :: line) = (c == '#' || c == '\\' && line.isEmpty) := by
  rw [isQuiet, List.dropWhile_cons_of_neg (by simp [h])]

/-- A quiet line is passed over. -/
theorem commands?_append_of_isQuiet {line : List Char} (hfeed : '\n' ∉ line)
    (hquiet : isQuiet line = true) (rest : List Char) :
    commands? (line ++ '\n' :: rest) = commands? rest := by
  induction line with
  | nil => exact commands?_feed rest
  | cons c line ih =>
    rw [List.mem_cons, not_or] at hfeed
    by_cases hblank : isBlank c = true
    · rw [isQuiet_blank hblank] at hquiet
      rw [List.cons_append, commands?_blank hblank, ih hfeed.2 hquiet]
    · rw [isQuiet_cons (Bool.eq_false_iff.mpr hblank), Bool.or_eq_true, Bool.and_eq_true,
        beq_iff_eq, beq_iff_eq, List.isEmpty_iff] at hquiet
      rcases hquiet with rfl | ⟨rfl, rfl⟩
      · exact commands?_comment hfeed.2 rest
      · -- The backslash joins the line to the next one, before which no word has begun.
        have hbackslash : scan (.bare .line) ('\\' :: '\n' :: rest) = scan (.bare .line) rest := by
          rw [scan_of_skip rfl rfl, scan_of_skip rfl rfl]
        rw [commands?, commands?]
        exact congrArg _ hbackslash

/-- A word that begins where a command may stand begins a command. -/
theorem exists_command_of_step {mode next : Mode} {c : Char} {part : Option Part}
    {rest : List Char} {reading : Reading} (hmode : mode.position = .line)
    (hstep : step mode c = some (part, next)) (hnext : next.isInside = true)
    (h : scan mode (c :: rest) = some reading) :
    ∃ words others, reading.commands = ⟨rest.length + 1 + mode.lag, words⟩ :: others := by
  rw [scan_of_step hstep hnext, hmode] at h
  obtain ⟨inner, -, rfl⟩ := Option.map_eq_some_iff.mp h
  exact ⟨_, _, rfl⟩

/-- A line that is not quiet begins a command, if it can be read at all. -/
theorem exists_command_of_not_isQuiet {line rest : List Char} {found : List Command}
    (hfeed : '\n' ∉ line) (hquiet : isQuiet line = false)
    (h : commands? (line ++ '\n' :: rest) = some found) :
    ∃ first others, found = first :: others ∧ rest.length < first.place := by
  induction line with
  | nil => cases hquiet
  | cons c line ih =>
    rw [List.mem_cons, not_or] at hfeed
    by_cases hblank : isBlank c = true
    · rw [isQuiet_blank hblank] at hquiet
      rw [List.cons_append, commands?_blank hblank] at h
      exact ih hfeed.2 hquiet h
    · rw [isQuiet_cons (Bool.eq_false_iff.mpr hblank), Bool.or_eq_false_iff,
        beq_eq_false_iff_ne] at hquiet
      obtain ⟨reading, hreading, rfl⟩ := Option.map_eq_some_iff.mp h
      rw [List.cons_append] at hreading
      by_cases hescape : c = '\\'
      · subst hescape
        cases line with
        | nil => simp at hquiet
        | cons d line =>
          rw [List.mem_cons, not_or] at hfeed
          have hstep : step (.escaped .line) d = some (some (.literal d true), .bare .word) :=
            if_neg (Ne.symm hfeed.2.1)
          rw [scan_of_skip rfl rfl, List.cons_append] at hreading
          obtain ⟨words, others, hcommands⟩ := exists_command_of_step rfl hstep rfl hreading
          refine ⟨_, _, hcommands, ?_⟩
          simp only [List.length_append, List.length_cons]
          omega
      · cases hstep : step (.bare .line) c with
        | none => simp [scan, hstep] at hreading
        | some result =>
          obtain ⟨part, next⟩ := result
          have hnext : next.isInside = true := by
            rcases bareStep_cases hstep with ⟨hc, -⟩ | ⟨hc, -⟩ | ⟨hc, -⟩ | ⟨hc, -⟩ | ⟨hnext, -⟩
            · exact absurd hc.symm hfeed.1
            · exact absurd hc hblank
            · exact absurd hc hquiet.1
            · exact absurd hc hescape
            · exact hnext
          obtain ⟨words, others, hcommands⟩ := exists_command_of_step rfl hstep hnext hreading
          refine ⟨_, _, hcommands, ?_⟩
          simp only [List.length_append, List.length_cons]
          omega

/-- Lines that are all quiet are passed over. -/
theorem commands?_append_of_forall_isQuiet {text : List Char}
    (hquiet : ∀ line ∈ Text.splitLines text, isQuiet line = true) (rest : List Char) :
    commands? (text ++ '\n' :: rest) = commands? rest := by
  induction text using Text.lines_induction with
  | last line hline =>
    rw [Text.splitLines_of_notMem hline] at hquiet
    exact commands?_append_of_isQuiet hline (hquiet line List.mem_cons_self) rest
  | more line text hline ih =>
    rw [Text.splitLines_append hline, List.forall_mem_cons] at hquiet
    rw [List.append_assoc, List.cons_append, commands?_append_of_isQuiet hline hquiet.1,
      ih hquiet.2]

/-- Among lines that are not all quiet a command begins, if they can be read at all. -/
theorem exists_command_of_exists_not_isQuiet {text rest : List Char} {found : List Command}
    (hloud : ∃ line ∈ Text.splitLines text, isQuiet line = false)
    (h : commands? (text ++ '\n' :: rest) = some found) :
    ∃ first others, found = first :: others ∧ rest.length < first.place := by
  obtain ⟨loud, hmem, hloud⟩ := hloud
  induction text using Text.lines_induction with
  | last line hline =>
    rw [Text.splitLines_of_notMem hline, List.mem_singleton] at hmem
    rw [hmem] at hloud
    exact exists_command_of_not_isQuiet hline hloud h
  | more line text hline ih =>
    rw [Text.splitLines_append hline] at hmem
    rw [List.append_assoc, List.cons_append] at h
    by_cases hquiet : isQuiet line = true
    · rcases List.mem_cons.mp hmem with rfl | hmem
      · rw [hquiet] at hloud
        cases hloud
      · rw [commands?_append_of_isQuiet hline hquiet] at h
        exact ih h hmem
    · obtain ⟨first, others, hfound, hplace⟩ :=
        exists_command_of_not_isQuiet hline (Bool.eq_false_iff.mpr hquiet) h
      refine ⟨first, others, hfound, Nat.lt_trans ?_ hplace⟩
      simp only [List.length_append, List.length_cons]
      omega

/-! ## Lines of commands -/

private theorem scan_of_atLineEnd {text : List Char} (h : AtLineEnd text) {mode : Mode}
    (hmode : mode = .bare .word ∨ mode = .name) : scan mode text = scan (.bare .line) text := by
  cases text with
  | nil => rcases hmode with rfl | rfl <;> rfl
  | cons c rest =>
    obtain rfl : c = '\n' := h c rfl
    rcases hmode with rfl | rfl <;> rw [scan_of_skip rfl rfl, scan_of_skip rfl rfl]

theorem scan_word {c : Char} {text : List Char} {parts : List Part} {last : Mode}
    (hc : Markdown.isWordChar c = true) (h : Steps (.bare .word) text parts last)
    (rest : List Char) :
    scan (.bare .line) (c :: (text ++ rest)) = (scan last rest).map fun reading ↦
      (reading.prepend (.literal c false :: parts)).begin .line (c :: (text ++ rest)).length := by
  have hstep : step (.bare .line) c = some (some (.literal c false), .bare .word) :=
    bareStep_of_isWordChar hc .line
  rw [scan_of_step hstep rfl, h.scan_append rfl, Option.map_map]
  rfl

/-- A line that is one word is a command of this word, at the place of the line. -/
theorem commands?_word {c : Char} {text rest : List Char} {parts : List Part} {last : Mode}
    (hc : Markdown.isWordChar c = true) (h : Steps (.bare .word) text parts last)
    (hlast : last = .bare .word ∨ last = .name) (hrest : AtLineEnd rest) :
    commands? (c :: (text ++ rest)) =
      (commands? rest).map (⟨(c :: (text ++ rest)).length, [.literal c false :: parts]⟩ :: ·) := by
  rw [commands?, commands?, scan_word hc h, scan_of_atLineEnd hrest hlast]
  cases hreading : scan (.bare .line) rest with
  | none => rfl
  | some reading =>
    obtain ⟨hparts, hwords⟩ := eq_of_scan_line rfl hreading
    simp [Reading.prepend, Reading.begin, hparts, hwords]

/-! ## Names of variables -/

private theorem isBareChar_of_isNameStart {c : Char} (h : Query.isNameStart c = true) :
    isBareChar c = true := by
  have hname : isPlainName [c] = true := by rw [isPlainName, h]; rfl
  simpa using all_isBareChar_of_isPlainName hname

private theorem isBareChar_of_step {mode next : Mode} {c d : Char}
    (h : step mode c = some (some (.name d), next)) : isBareChar d = true := by
  have hbare : ∀ {position}, bareStep position c ≠ some (some (.name d), next) := by
    intro position hstep
    rcases bareStep_cases hstep with ⟨-, hpart, -⟩ | ⟨-, hpart, -⟩ | ⟨-, hpart, -⟩ | ⟨-, hpart, -⟩ |
      ⟨-, hpart⟩
    · cases hpart
    · cases hpart
    · cases hpart
    · cases hpart
    · exact hpart d rfl
  cases mode with
  | bare position => exact absurd h hbare
  | escaped position =>
    rw [step] at h
    split at h <;> cases h
  | quoted =>
    rw [step] at h
    split at h <;> cases h
  | expansion =>
    rw [step] at h
    split at h
    · next hstart => cases h; exact isBareChar_of_isNameStart hstart
    · cases h
  | name =>
    rw [step] at h
    split at h
    · next hrest => cases h; exact hrest
    · exact absurd h hbare
  | comment => cases h

private theorem isBareChar_of_mem_parts {mode : Mode} {text : List Char} {reading : Reading}
    {d : Char} (h : scan mode text = some reading) (hd : .name d ∈ reading.parts) :
    isBareChar d = true := by
  induction text generalizing mode reading with
  | nil =>
    rw [scan] at h
    split at h <;> cases h
    cases hd
  | cons c rest ih =>
    cases hstep : step mode c with
    | none => simp [scan, hstep] at h
    | some found =>
      obtain ⟨part, next⟩ := found
      simp only [scan, hstep, Option.map_eq_some_iff] at h
      obtain ⟨inner, hinner, rfl⟩ := h
      have hparts : .name d ∈ part.toList ++ inner.parts := by
        split at hd
        · cases hposition : mode.position with
          | word => simpa [hposition, Reading.begin, Reading.prepend] using hd
          | gap => simp [hposition, Reading.begin] at hd
          | line => simp [hposition, Reading.begin] at hd
        · exact hd
      rcases List.mem_append.mp hparts with hpart | hrest
      · rw [Option.mem_toList] at hpart
        rw [Option.mem_def.mp hpart] at hstep
        exact isBareChar_of_step hstep
      · exact ih hinner hrest

/-- The name of a variable that is expanded is a plain name. -/
theorem isPlainName_of_scan {text name : List Char} {reading : Reading}
    (h : scan .expansion text = some reading) (hparts : reading.parts = name.map .name) :
    isPlainName name = true := by
  cases text with
  | nil => cases h
  | cons c rest =>
    by_cases hc : Query.isNameStart c = true
    · have hstep : step .expansion c = some (some (.name c), .name) := if_pos hc
      rw [scan_of_step hstep rfl] at h
      obtain ⟨inner, hinner, rfl⟩ := Option.map_eq_some_iff.mp h
      have hname : .name c :: inner.parts = name.map .name := hparts
      obtain ⟨d, others, rfl, hd, hothers⟩ := List.map_eq_cons_iff.mp hname.symm
      obtain rfl := Part.name.inj hd
      rw [isPlainName, hc, Bool.true_and, List.all_eq_true]
      intro e he
      refine isBareChar_of_mem_parts hinner ?_
      rw [← hothers]
      exact List.mem_map_of_mem he
    · simp [scan, step, hc] at h

end Shell

end Runbook
