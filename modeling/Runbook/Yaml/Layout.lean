import Runbook.Yaml.Data
import Runbook.Yaml.Scalar

/-!
# Layout

Mappings and sequences are written in block style, one entry on a line. A mapping below a key is
indented by two; a sequence below a key is not. What stands in an item starts on the line of its
dash, and what stands below a long key on the line of its colon.
-/

namespace Runbook.Yaml

/-- How far a nested level is indented. -/
def indentWidth : Nat := 2

/-- Entries one below the other, each at column `indent`. -/
def stack (indent : Nat) (entries : List String) : String :=
  Text.join ("\n" ++ Text.spaces indent) entries

/-- The text before the value of an entry: the key and its colon on one line, or a long key and its
colon on lines of their own. -/
def keyText (indent : Nat) (key : String) : String :=
  if isSimpleKey key then scalarText false (indent + indentWidth) indent key ++ ":"
  else
    "? " ++ scalarText true (indent + indentWidth) (indent + 2) key ++ "\n" ++ Text.spaces indent ++
      ":"

/-- The column after the colon of a key. -/
def keyEnd (indent : Nat) (key : String) : Nat :=
  if isSimpleKey key then indent + (keyText indent key).length else indent + 1

mutual
/-- What follows an indicator at column `indent`, on the same line. -/
def afterIndicator (indent : Nat) : Data → String
  | .null => " null"
  | .bool b => " " ++ jsonBool b
  | .int n => " " ++ toString n
  | .float x => " " ++ floatText x
  | .text s => " " ++ scalarText true (indent + indentWidth) (indent + 2) s
  | .list [] => " []"
  | .list (item :: rest) =>
    " " ++ stack (indent + indentWidth) (itemTexts (indent + indentWidth) (item :: rest))
  | .map [] => " \x7b\x7d"
  | .map (entry :: rest) =>
    " " ++ stack (indent + indentWidth) (entryTexts (indent + indentWidth) (entry :: rest))

/-- What follows a key in a mapping at column `indent`; the colon ends at `column`. -/
def afterKey (indent column : Nat) : Data → String
  | .null => " null"
  | .bool b => " " ++ jsonBool b
  | .int n => " " ++ toString n
  | .float x => " " ++ floatText x
  | .text s => " " ++ scalarText true (indent + indentWidth) (column + 1) s
  | .list [] => " []"
  | .list (item :: rest) =>
    "\n" ++ Text.spaces indent ++ stack indent (itemTexts indent (item :: rest))
  | .map [] => " \x7b\x7d"
  | .map (entry :: rest) =>
    "\n" ++ Text.spaces (indent + indentWidth) ++
      stack (indent + indentWidth) (entryTexts (indent + indentWidth) (entry :: rest))

/-- The items of a sequence at column `indent`. -/
def itemTexts (indent : Nat) : List Data → List String
  | [] => []
  | item :: rest => ("-" ++ afterIndicator indent item) :: itemTexts indent rest

/-- The entries of a mapping at column `indent`. -/
def entryTexts (indent : Nat) : List (String × Data) → List String
  | [] => []
  | (key, value) :: rest =>
    (keyText indent key ++
      if isSimpleKey key then afterKey indent (keyEnd indent key) value
      else afterIndicator indent value) :: entryTexts indent rest
end

/-- A mapping as a YAML text that ends with a line feed. -/
def write (entries : List (String × Data)) : String := stack 0 (entryTexts 0 entries) ++ "\n"

end Runbook.Yaml
