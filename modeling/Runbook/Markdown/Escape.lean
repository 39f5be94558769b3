import Runbook.Text.Search

/-!
# Escapes of markdown

The characters that would end a cell, a quoted field, an attribute or a fenced block early. Escapes
are made by one replacement after the other, so the order matters: what a replacement puts in is
seen by the next one.
-/

namespace Runbook.Markdown

open Text (replaceAll)

/-- The text of a cell: pipes are escaped and line ends become blanks. -/
def escapeCell (text : String) : String :=
  String.ofList
    (replaceAll "\n" " " (replaceAll "\r\n" " " (replaceAll "|" "\\|" text.toList)))

/-- A text between double quotes. -/
def escapeQuotes (text : String) : String :=
  String.ofList (replaceAll "\"" "\\\"" (replaceAll "\\" "\\\\" text.toList))

def escapeAttribute (text : String) : String :=
  String.ofList (replaceAll "\"" "&quot;" (replaceAll "&" "&amp;" text.toList))

/-- A backtick. -/
def fenceChar : Char := '\x60'

/-- The lengths of the runs of fence characters between other characters. `current` fence characters
came just before. -/
def runLengths (current : Nat) : List Char → List Nat
  | [] => [current]
  | c :: rest =>
    if c = fenceChar then runLengths (current + 1) rest else current :: runLengths 0 rest

/-- The number of characters of the fence for a content: one more than the longest run of three or
more fence characters has. -/
def fenceLength (content : String) : Nat :=
  (((runLengths 0 content.toList).filter (3 ≤ ·)).max?.getD 2) + 1

/-- A fence that is longer than every run of fence characters in the content, and at least three
characters long. -/
def fence (content : String) : String :=
  String.ofList (List.replicate (fenceLength content) fenceChar)

end Runbook.Markdown
