import Runbook.Staged.Basic
import Runbook.Text.Escape
import Runbook.Text.Lines
import Runbook.Text.Search

/-!
# Queries

A staged value is fetched by a shell expression: the bare variable for a root, and otherwise a
command substitution that runs a query tool over the variable's JSON. The query path writes a step
as `.name`, `[n]` or `["key"]`.
-/

namespace Runbook

/-! ## Query paths -/

/-- The characters of a name that a query path writes without quotes. -/
def isBareChar (c : Char) : Bool := c.isAlphanum || c == '_'

/-- A name that is written without quotes: ASCII letters, digits and underscores, not starting with
a digit. One line feed at its end is let through. -/
def spellsBareName : List Char → Bool
  | [] => false
  | c :: rest =>
    (c.isAlpha || c == '_') &&
      (rest.all isBareChar ||
        match rest.getLast? with
        | some '\n' => rest.dropLast.all isBareChar
        | _ => false)

/-- The name by which a query path writes a key without quotes. -/
def PathKey.bareName? (key : PathKey) : Option String :=
  key.text?.filter fun name ↦ spellsBareName name.toList

namespace Segment

/-- One step of a query path. -/
def queryText : Segment → String
  | .index position => "[" ++ toString position ++ "]"
  | .key name =>
    match name.bareName? with
    | some text => "." ++ text
    | none => "[" ++ name.json ++ "]"

end Segment

namespace Staged

/-- The path that selects the value from its root. -/
def queryPath (value : Staged) : String :=
  if value.path.isEmpty then "."
  else
    let text := Text.join "" (value.path.map Segment.queryText)
    if Text.startsWith "." text then text else "." ++ text

end Staged

/-! ## Shell expressions -/

/-- How a character is written between single quotes of the shell. -/
def shellQuoteChar (c : Char) : List Char :=
  if c = '\'' then ['\'', '\\', '\'', '\''] else [c]

/-- `text` with each single quote closed, escaped and opened again. -/
def shellQuoteBody (text : String) : String := String.ofList (text.toList.flatMap shellQuoteChar)

/-- `text` as a single-quoted word of the shell. -/
def shellQuote (text : String) : String := "'" ++ shellQuoteBody text ++ "'"

/-- Whether an expression yields the raw value or its JSON text. -/
inductive Mode where
  | raw
  | json
deriving DecidableEq, Repr, Inhabited

/-- The option of the query tool for a mode. -/
def Mode.flag : Mode → String
  | .raw => "-r"
  | .json => "-c"

namespace Staged

/-- The command that runs the query tool over the variable of `value`. -/
def query (tool : String) (mode : Mode) (value : Staged) : String :=
  "$(echo \"$" ++ value.root ++ "\" | " ++ tool ++ " " ++ mode.flag ++ " " ++
    shellQuote value.queryPath ++ ")"

/-- The expression that fetches `value` when the runbook is executed. -/
def resolve (tool : String) (mode : Mode) (value : Staged) : String :=
  if value.path.isEmpty then "$" ++ value.root else value.query tool mode

end Staged

/-- The query tool that is used if the settings name no other. -/
def defaultQueryTool : String := "jq"

/-- The assertion that an expression yields something other than nothing, null and false. -/
def truthiness (expression : String) : String :=
  expression ++ " != \"\" && " ++ expression ++ " != \"null\" && " ++ expression ++ " != \"false\""

end Runbook
