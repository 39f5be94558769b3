import Runbook.Emission
import Runbook.Text.Search
import Runbook.Value.Json
import Runbook.Value.Key

/-!
# Splicing staged values into JSON

Data with staged values at its leaves is written as JSON in two passes. First each leaf becomes a
marker, a text that no author writes; then the marker in the JSON text is replaced by what fetches
the leaf.
-/

namespace Runbook.Markdown

/-- The marker of the leaf with the given number. -/
def marker (index : Nat) : String := "\x00" ++ toString index ++ "\x00"

/-- The marker as it stands in JSON text. -/
def jsonMarker (index : Nat) : String := Text.jsonString (marker index)

/-- Entries with texts as keys as a mapping. -/
def textDict (entries : List (String × Value)) : Value :=
  .mapping (entries.map fun entry ↦ (.text entry.1, entry.2))

mutual
/-- A value with markers in place of its staged leaves, which are numbered from `start` on, and the
leaves. Keys become texts; of two keys with one text the later value stays. -/
def mark (start : Nat) : Value → Value × List Staged
  | .staged v => (.text (marker start), [v])
  | .mapping entries =>
    let marked := markEntries start entries
    (textDict (setNames marked.1), marked.2)
  | .list items =>
    let marked := markItems start items
    (.list marked.1, marked.2)
  | .tuple items =>
    let marked := markItems start items
    (.list marked.1, marked.2)
  | value => (value, [])

/-- The items of a sequence with markers, and their leaves. -/
def markItems (start : Nat) : List Value → List Value × List Staged
  | [] => ([], [])
  | item :: rest =>
    let first := mark start item
    let others := markItems (start + first.2.length) rest
    (first.1 :: others.1, first.2 ++ others.2)

/-- The entries of a mapping with markers, and their leaves. -/
def markEntries (start : Nat) : List (Value × Value) → List (String × Value) × List Staged
  | [] => ([], [])
  | (key, value) :: rest =>
    let first := mark start value
    let others := markEntries (start + first.2.length) rest
    ((key.display, first.1) :: others.1, first.2 ++ others.2)
end

/-- The JSON text of a value with markers in place of its leaves. -/
def markedJson (style : JsonStyle) (value : Value) : Emission String :=
  match (mark 0 value).1.json? style with
  | some text => .done text
  | none => .fail .unserializable

/-- Replaces the markers from number `index` on, one after the other. -/
def fillMarkers (index : Nat) (text : List Char) : List Staged → Emission (List Char)
  | [] => .done text
  | leaf :: rest => do
    let expression ← Emission.raw leaf
    fillMarkers (index + 1)
      (Text.replaceFirst (jsonMarker index).toList expression.toList text) rest

/-- JSON text in which staged leaves are replaced by their expressions. -/
def spliceJson (indent : Option Nat) (value : Value) : Emission String :=
  match indent with
  | none => .fail .unserializable
  | some width => do
    Emission.checkBlanks width
    let text ← markedJson (.indented width) value
    return String.ofList (← fillMarkers 0 text.toList (mark 0 value).2)

/-- The text before and after the first occurrence of a marker; without one, all of it is before. -/
def cutMarker (index : Nat) (text : List Char) : List Char × List Char :=
  (Text.splitFirst? (jsonMarker index).toList text).getD (text, [])

/-- Cuts the text at its markers and puts double-quoted expressions between the pieces. -/
def spliceShell (index : Nat) (text : List Char) : List Staged → Emission String
  | [] => .done (shellQuoteBody (String.ofList text))
  | leaf :: rest => do
    let pieces := cutMarker index text
    let expression ← Emission.json leaf
    let others ← spliceShell (index + 1) pieces.2 rest
    return shellQuoteBody (String.ofList pieces.1) ++ "'\"" ++ expression ++ "\"'" ++ others

/-- A word of the shell that holds compact JSON. Staged leaves stand in double quotes between closed
and opened single quotes. -/
def shellJson (value : Value) : Emission String := do
  let text ← markedJson .compact value
  let body ← spliceShell 0 text.toList (mark 0 value).2
  return "'" ++ body ++ "'"

end Runbook.Markdown
