import Runbook.Number.Shortest
import Runbook.Text.Escape
import Runbook.Text.Lines
import Runbook.Value.Basic

/-!
# JSON text of values

Scalars, sequences and mappings with scalar keys have JSON text; other values have none. The text
holds ASCII only. A style says what stands between items and how deep the lines are indented.
-/

namespace Runbook

/-- The spacing of JSON text. -/
structure JsonStyle where
  /-- What follows an item that is not the last. -/
  itemEnd : String
  /-- What follows a key. -/
  keyEnd : String
  /-- Each item stands on a line of its own, indented by this many blanks for each level. -/
  indent : Option Nat
deriving Repr, Inhabited

namespace JsonStyle

/-- All on one line without blanks. -/
def compact : JsonStyle := ⟨",", ":", none⟩

/-- All on one line, with a blank after each comma and colon. -/
def spaced : JsonStyle := ⟨", ", ": ", none⟩

/-- Items on lines of their own. -/
def indented (width : Nat) : JsonStyle := ⟨",", ": ", some width⟩

/-- What separates the opening bracket from the first item of a level. -/
def lineBreak (style : JsonStyle) (depth : Nat) : String :=
  match style.indent with
  | none => ""
  | some width => "\n" ++ Text.spaces (width * depth)

/-- Items between brackets at the given depth; the brackets of nothing touch each other. -/
def enclose (style : JsonStyle) (depth : Nat) (opening closing : String) (parts : List String) :
    String :=
  if parts.isEmpty then opening ++ closing
  else
    opening ++ style.lineBreak (depth + 1) ++
      Text.join (style.itemEnd ++ style.lineBreak (depth + 1)) parts ++
      style.lineBreak depth ++ closing

end JsonStyle

/-- `true` or `false`. -/
def jsonBool (b : Bool) : String := if b then "true" else "false"

namespace Value

/-- The text of a scalar key. -/
def jsonKey? : Value → Option String
  | .null => some "null"
  | .bool b => some (jsonBool b)
  | .int n => some (toString n)
  | .float x => some x.json
  | .text s => some s
  | .member m => some m.text
  | _ => none

mutual
/-- The JSON text of a value at the given depth. -/
def jsonAt? (style : JsonStyle) (depth : Nat) : Value → Option String
  | .null => some "null"
  | .bool b => some (jsonBool b)
  | .int n => some (toString n)
  | .float x => some x.json
  | .text s => some (Text.jsonString s)
  | .member m => some (Text.jsonString m.text)
  | .list items => (jsonItems? style (depth + 1) items).map (style.enclose depth "[" "]")
  | .tuple items => (jsonItems? style (depth + 1) items).map (style.enclose depth "[" "]")
  | .mapping entries =>
    (jsonEntries? style (depth + 1) entries).map (style.enclose depth "\x7b" "\x7d")
  | _ => none

/-- The JSON texts of the items of a sequence. -/
def jsonItems? (style : JsonStyle) (depth : Nat) : List Value → Option (List String)
  | [] => some []
  | item :: rest => do
    let first ← jsonAt? style depth item
    let others ← jsonItems? style depth rest
    return first :: others

/-- The JSON texts of the entries of a mapping. -/
def jsonEntries? (style : JsonStyle) (depth : Nat) :
    List (Value × Value) → Option (List String)
  | [] => some []
  | (key, value) :: rest => do
    let name ← jsonKey? key
    let first ← jsonAt? style depth value
    let others ← jsonEntries? style depth rest
    return (Text.jsonString name ++ style.keyEnd ++ first) :: others
end

/-- The JSON text of a value. -/
def json? (style : JsonStyle) (value : Value) : Option String := value.jsonAt? style 0

end Value

end Runbook
