/-!
# Lines

A text is the sequence of its lines, divided by line feeds; the last line may be empty, and the
empty text has one empty line. Blocks of a document are joined, indented and quoted line by line,
so splitting and joining are defined by recursion on the characters, where each law is one
induction.
-/

namespace Runbook.Text

/-! ## Splitting and joining -/

/-- The lines of a text: what stands between its line feeds. -/
def splitLines : List Char → List (List Char)
  | [] => [[]]
  | c :: rest =>
    if c = '\n' then [] :: splitLines rest
    else match splitLines rest with
      | [] => [[c]]
      | line :: lines => (c :: line) :: lines

/-- `parts` one after another, divided by `separator`. -/
def joinChars (separator : List Char) : List (List Char) → List Char
  | [] => []
  | [part] => part
  | part :: next :: rest => part ++ separator ++ joinChars separator (next :: rest)

/-- `parts` one after another, divided by `separator`. -/
def join (separator : String) (parts : List String) : String :=
  String.ofList (joinChars separator.toList (parts.map String.toList))

def lines (text : String) : List String := (splitLines text.toList).map String.ofList

theorem splitLines_ne_nil (text : List Char) : splitLines text ≠ [] := by
  cases text with
  | nil => simp [splitLines]
  | cons c rest =>
    rw [splitLines]
    split
    · simp
    · split <;> simp

/-- Splitting a text into lines loses nothing. -/
theorem joinChars_splitLines (text : List Char) : joinChars ['\n'] (splitLines text) = text := by
  induction text with
  | nil => rfl
  | cons c rest ih =>
    rw [splitLines]
    match h : splitLines rest with
    | [] => exact absurd h (splitLines_ne_nil rest)
    | line :: lines =>
      rw [h] at ih
      split
      · subst c
        simp [joinChars, ih]
      · cases lines with
        | nil => simpa [joinChars] using ih
        | cons next more => simpa [joinChars] using ih

/-! ## Indenting -/

/-- `pad` in front of a line, unless the line is empty. -/
def padLine (pad line : List Char) : List Char := if line = [] then [] else pad ++ line

/-- `text` with `pad` in front of each line that is not empty. -/
def indentLines (pad : String) (text : String) : String :=
  String.ofList (joinChars ['\n'] ((splitLines text.toList).map (padLine pad.toList)))

def spaces (n : Nat) : String := String.ofList (List.replicate n ' ')

/-- `text` with `n` spaces in front of each line that is not empty. The spaces are made only if
there is such a line. -/
def indentBy (n : Nat) (text : String) : String :=
  if text.toList.all (· == '\n') then text else indentLines (spaces n) text

/-- Lines between nothing but line feeds are empty, so padding leaves them as they are. -/
theorem map_padLine_splitLines (pad : List Char) {text : List Char}
    (h : ∀ c ∈ text, c = '\n') : (splitLines text).map (padLine pad) = splitLines text := by
  induction text with
  | nil => rfl
  | cons c rest ih =>
    have hc : c = '\n' := h c (by simp)
    have hrest := ih fun d hd ↦ h d (by simp [hd])
    simp [splitLines, hc, hrest, padLine]

theorem indentBy_eq (n : Nat) (text : String) : indentBy n text = indentLines (spaces n) text := by
  rw [indentBy]
  split
  · next h =>
    have hall : ∀ c ∈ text.toList, c = '\n' := by simpa using h
    rw [indentLines, map_padLine_splitLines _ hall, joinChars_splitLines, String.ofList_toList]
  · rfl

end Runbook.Text
