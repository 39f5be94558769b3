import Runbook.Proofs.FixedFences
import Runbook.Proofs.QueryGrammar

/-!
# Words of the shell

A machine that reads shell text one character at a time. It knows what the shell does with words:
blanks between them, comments, single quotes, backslashes and the values of variables. Whatever has
another meaning in the shell it refuses.

A run through a text that stays inside of one word is described once (`Steps`), for every reader of
the machine. A literal on the right of an assignment is such a text, whatever it holds: nothing is
expanded in it, and its characters are those of the literal (`steps_shellLiteral`).
-/

namespace Runbook

namespace Shell

/-! ## One character -/

/-- Where a reader stands: before a command, before a further word of it, or inside a word. -/
inductive Position where
  | line
  | gap
  | word
deriving DecidableEq, Repr

/-- What a reader is amid. A backslash does not begin a word before it is known what follows it. -/
inductive Mode where
  | bare (position : Position)
  | escaped (position : Position)
  | quoted
  /-- Behind the dollar sign of an expansion. -/
  | expansion
  /-- Inside the name of a variable that is expanded. -/
  | name
  | comment
deriving DecidableEq, Repr

/-- What a character contributes to a word. -/
inductive Part where
  | literal (c : Char) (quoted : Bool)
  | dollar
  | name (c : Char)
deriving DecidableEq, Repr

/-- The characters that separate words. -/
def isBlank (c : Char) : Bool := c == ' ' || c == '\t'

/-- Characters that have a meaning in the shell beyond the words that are read here. -/
def special : List Char :=
  ['"', '`', '|', '&', ';', '(', ')', '<', '>', '*', '?', '[', ']', '{', '}', '~', '!']

/-- What a character does that stands outside of quotes. -/
def bareStep (position : Position) (c : Char) : Option (Option Part × Mode) :=
  if c = '\n' then some (none, .bare .line)
  else if isBlank c then some (none, .bare (if position = .line then .line else .gap))
  else if c = '#' ∧ position ≠ .word then some (none, .comment)
  else if c = '\'' then some (none, .quoted)
  else if c = '\\' then some (none, .escaped position)
  else if c = '$' then some (some .dollar, .expansion)
  else if c ∈ special then none
  else some (some (.literal c false), .bare .word)

/-- What a character does: what it contributes, and how it is read on. -/
def step : Mode → Char → Option (Option Part × Mode)
  | .bare position, c => bareStep position c
  -- A line break behind a backslash joins two lines.
  | .escaped position, c =>
    if c = '\n' then some (none, .bare position) else some (some (.literal c true), .bare .word)
  | .quoted, c =>
    if c = '\'' then some (none, .bare .word) else some (some (.literal c true), .quoted)
  | .expansion, c => if Query.isNameStart c then some (some (.name c), .name) else none
  | .name, c => if isBareChar c then some (some (.name c), .name) else bareStep .word c
  | .comment, c => some (none, if c = '\n' then .bare .line else .comment)

namespace Mode

/-- The place of a reader. A comment ends a command. -/
def position : Mode → Position
  | .bare position => position
  | .escaped position => position
  | .quoted | .expansion | .name => .word
  | .comment => .line

/-- A word has begun and is not over. -/
def isInside (mode : Mode) : Bool := mode.position == .word

theorem position_of_isInside {mode : Mode} (h : mode.isInside = true) : mode.position = .word :=
  eq_of_beq h

/-- The text may end here. -/
def isFinal : Mode → Bool
  | .bare _ | .name | .comment => true
  | .escaped _ | .quoted | .expansion => false

end Mode

/-- Outside of quotes a character ends the word, begins a comment, escapes the next character, or
belongs to a word. -/
theorem bareStep_cases {position : Position} {c : Char} {part : Option Part} {next : Mode}
    (h : bareStep position c = some (part, next)) :
    (c = '\n' ∧ part = none ∧ next = .bare .line) ∨
    (isBlank c = true ∧ part = none ∧
      next = .bare (if position = .line then .line else .gap)) ∨
    (c = '#' ∧ part = none ∧ next = .comment) ∨
    (c = '\\' ∧ part = none ∧ next = .escaped position) ∨
    (next.isInside = true ∧ ∀ d, part ≠ some (.name d)) := by
  rw [bareStep] at h
  split at h
  · next hc => cases h; exact .inl ⟨hc, rfl, rfl⟩
  split at h
  · next hc => cases h; exact .inr (.inl ⟨hc, rfl, rfl⟩)
  split at h
  · next hc => cases h; exact .inr (.inr (.inl ⟨hc.1, rfl, rfl⟩))
  split at h
  · cases h; exact .inr (.inr (.inr (.inr ⟨rfl, by simp⟩)))
  split at h
  · next hc => cases h; exact .inr (.inr (.inr (.inl ⟨hc, rfl, rfl⟩)))
  split at h
  · cases h; exact .inr (.inr (.inr (.inr ⟨rfl, by simp⟩)))
  split at h
  · cases h
  · cases h; exact .inr (.inr (.inr (.inr ⟨rfl, by simp⟩)))

/-! ## Words -/

/-- The parts of a word, and what follows the word. -/
def word? : Mode → List Char → Option (List Part × List Char)
  | mode, [] => if mode.isFinal then some ([], []) else none
  | mode, c :: rest =>
    match step mode c with
    | none => none
    | some (part, next) =>
      if next.isInside then
        (word? next rest).map fun found ↦ (part.toList ++ found.1, found.2)
      else some ([], c :: rest)

/-- A run of the machine through a text that does not leave the word. -/
inductive Steps : Mode → List Char → List Part → Mode → Prop where
  | nil (mode : Mode) : Steps mode [] [] mode
  | skip {mode next last : Mode} {c : Char} {text : List Char} {parts : List Part}
    (hstep : step mode c = some (none, next)) (hnext : next.isInside = true)
    (hsteps : Steps next text parts last) : Steps mode (c :: text) parts last
  | take {mode next last : Mode} {c : Char} {part : Part} {text : List Char} {parts : List Part}
    (hstep : step mode c = some (some part, next)) (hnext : next.isInside = true)
    (hsteps : Steps next text parts last) : Steps mode (c :: text) (part :: parts) last

theorem Steps.append {mode next last : Mode} {text more : List Char} {parts others : List Part}
    (h : Steps mode text parts next) (hmore : Steps next more others last) :
    Steps mode (text ++ more) (parts ++ others) last := by
  induction h with
  | nil mode => exact hmore
  | skip hstep hnext _ ih => exact .skip hstep hnext (ih hmore)
  | take hstep hnext _ ih => exact .take hstep hnext (ih hmore)

theorem Steps.word?_append {mode next : Mode} {text : List Char} {parts : List Part}
    (h : Steps mode text parts next) (rest : List Char) :
    word? mode (text ++ rest) =
      (word? next rest).map fun found ↦ (parts ++ found.1, found.2) := by
  induction h with
  | nil mode => simp
  | skip hstep hnext _ ih => simp [word?, hstep, hnext, ih, Function.comp_def]
  | take hstep hnext _ ih => simp [word?, hstep, hnext, ih, Function.comp_def]

/-- The text is at its end, or a line is. -/
def AtLineEnd (text : List Char) : Prop := ∀ c ∈ text.head?, c = '\n'

theorem word?_of_atLineEnd {text : List Char} (h : AtLineEnd text) {mode : Mode}
    (hmode : mode = .bare .word ∨ mode = .name) : word? mode text = some ([], text) := by
  cases text with
  | nil => rcases hmode with rfl | rfl <;> rfl
  | cons c rest =>
    obtain rfl : c = '\n' := h c rfl
    rcases hmode with rfl | rfl <;> rfl

/-! ## Characters of a word -/

theorem bareStep_of_isWordChar {c : Char} (h : Markdown.isWordChar c = true)
    (position : Position) : bareStep position c = some (some (.literal c false), .bare .word) := by
  have hne : ∀ d, Markdown.isWordChar d = false → c ≠ d := by
    rintro d hd rfl
    rw [hd] at h
    cases h
  have hspecial : c ∉ special := by
    have hall : special.all (fun d ↦ !Markdown.isWordChar d) = true := by decide
    intro hmem
    have hc := List.all_eq_true.mp hall c hmem
    rw [h] at hc
    cases hc
  have hblank : isBlank c = false := by
    simp [isBlank, hne ' ' (by decide), hne '\t' (by decide)]
  rw [bareStep, if_neg (hne '\n' (by decide)), hblank]
  simp [hne '#' (by decide), hne '\'' (by decide), hne '\\' (by decide), hne '$' (by decide),
    hspecial]

theorem isWordChar_of_isBareChar {c : Char} (h : isBareChar c = true) :
    Markdown.isWordChar c = true := by
  rw [isBareChar, Bool.or_eq_true] at h
  rcases h with h | h
  · simp [Markdown.isWordChar, h]
  · obtain rfl := beq_iff_eq.mp h
    decide

/-- Characters that need no quotes stand for themselves. -/
theorem steps_of_all_isWordChar {text : List Char} (h : text.all Markdown.isWordChar = true) :
    Steps (.bare .word) text (text.map (.literal · false)) (.bare .word) := by
  induction text with
  | nil => exact .nil _
  | cons c rest ih =>
    rw [List.all_cons, Bool.and_eq_true] at h
    exact .take (bareStep_of_isWordChar h.1 .word) rfl (ih h.2)

private theorem steps_shellQuoteChar (c : Char) :
    Steps .quoted (shellQuoteChar c) [.literal c true] .quoted := by
  by_cases hc : c = '\''
  · subst hc
    -- The quotes are closed, the apostrophe is escaped, and the quotes are opened again.
    exact .skip rfl rfl (.skip rfl rfl (.take rfl rfl (.skip rfl rfl (.nil _))))
  · rw [shellQuoteChar, if_neg hc]
    exact .take (if_neg hc) rfl (.nil _)

private theorem steps_shellQuoteBody (text : List Char) :
    Steps .quoted (text.flatMap shellQuoteChar) (text.map (.literal · true)) .quoted := by
  induction text with
  | nil => exact .nil _
  | cons c rest ih => exact (steps_shellQuoteChar c).append ih

private theorem steps_shellQuote (text : String) :
    Steps (.bare .word) (shellQuote text).toList (text.toList.map (.literal · true))
      (.bare .word) := by
  have htext : (shellQuote text).toList =
      '\'' :: (text.toList.flatMap shellQuoteChar ++ ['\'']) := by
    simp [shellQuote, shellQuoteBody]
  have hclose : Steps .quoted ['\''] [] (.bare .word) := .skip rfl rfl (.nil _)
  have hbody := (steps_shellQuoteBody text.toList).append hclose
  rw [List.append_nil] at hbody
  rw [htext]
  exact .skip rfl rfl hbody

/-- A literal is read as its own characters, all of them in quotes or none. -/
theorem steps_shellLiteral (content : String) :
    ∃ quoted, Steps (.bare .word) (Markdown.shellLiteral content).toList
      (content.toList.map (.literal · quoted)) (.bare .word) := by
  rw [Markdown.shellLiteral]
  split
  · next h =>
    rw [Bool.and_eq_true] at h
    exact ⟨false, steps_of_all_isWordChar h.2⟩
  · exact ⟨true, steps_shellQuote content⟩

/-- A plain name behind a dollar sign is the name of a variable. -/
theorem steps_of_isPlainName {name : List Char} (h : isPlainName name = true) :
    Steps .expansion name (name.map .name) .name := by
  have hrest : ∀ rest : List Char, rest.all isBareChar = true →
      Steps .name rest (rest.map .name) .name := by
    intro rest hall
    induction rest with
    | nil => exact .nil _
    | cons c rest ih =>
      rw [List.all_cons, Bool.and_eq_true] at hall
      exact .take (if_pos hall.1) rfl (ih hall.2)
  cases name with
  | nil => cases h
  | cons c rest =>
    rw [isPlainName, Bool.and_eq_true] at h
    exact .take (if_pos h.1) rfl (hrest rest h.2)

end Shell

end Runbook
