import Runbook.Text.Range

/-!
# Blank characters

The characters that trimming removes: the Unicode white space together with the four ASCII
separators U+001C to U+001F. Core's `Char.isWhitespace` knows four ASCII characters only, so it is
contained in this class and not equal to it.
-/

namespace Runbook.Text

/-- Blank characters beyond ASCII. -/
def blankRanges : List (Nat × Nat) :=
  [(0x85, 0x85), (0xA0, 0xA0), (0x1680, 0x1680), (0x2000, 0x200A), (0x2028, 0x2029),
    (0x202F, 0x202F), (0x205F, 0x205F), (0x3000, 0x3000)]

/-- White space, line ends and separators. -/
def isBlank (c : Char) : Bool :=
  if isAscii c then
    c == ' ' || (0x09 ≤ c.toNat && c.toNat ≤ 0x0D) || (0x1C ≤ c.toNat && c.toNat ≤ 0x1F)
  else
    inRanges blankRanges c

/-- The four ASCII separators are blank, but not white space. -/
def isSeparator (c : Char) : Bool := 0x1C ≤ c.toNat && c.toNat ≤ 0x1F

/-- White space, which is what may stand around a number. -/
def isPadding (c : Char) : Bool := isBlank c && !isSeparator c

/-- Drops the longest leading run of characters that satisfy `p`. -/
def trimLeading (p : Char → Bool) (text : List Char) : List Char := text.dropWhile p

/-- Drops the longest trailing run of characters that satisfy `p`. -/
def trimTrailing (p : Char → Bool) (text : List Char) : List Char :=
  (text.reverse.dropWhile p).reverse

/-- Drops the runs of characters that satisfy `p` at both ends. -/
def trimBoth (p : Char → Bool) (text : List Char) : List Char :=
  trimTrailing p (trimLeading p text)

/-- `text` without blanks at either end. -/
def trim (text : String) : String := String.ofList (trimBoth isBlank text.toList)

/-- `text` without blanks at its end. -/
def trimEnd (text : String) : String := String.ofList (trimTrailing isBlank text.toList)

/-- `text` without line feeds at either end. -/
def trimLineFeeds (text : String) : String := String.ofList (trimBoth (· == '\n') text.toList)

def trimEndLineFeeds (text : String) : String :=
  String.ofList (trimTrailing (· == '\n') text.toList)

/-- `text` has no character that is not blank. -/
def isBlankText (text : String) : Bool := text.toList.all isBlank

/-- What stands in front of a character that is kept is kept too. -/
theorem trimTrailing_append {p : Char → Bool} {c : Char} (hc : p c = false)
    (front back : List Char) :
    trimTrailing p (front ++ c :: back) = front ++ c :: trimTrailing p back := by
  have hreverse : (front ++ c :: back).reverse = back.reverse ++ c :: front.reverse := by simp
  rw [trimTrailing, hreverse, List.dropWhile_append, List.dropWhile_cons_of_neg (by simp [hc])]
  split
  · next hempty => simp [trimTrailing, List.isEmpty_iff.mp hempty]
  · simp [trimTrailing]

end Runbook.Text
