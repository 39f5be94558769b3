import Runbook.Staged.Query
import Runbook.Value.Literal

/-!
# Settings

Settings are given as data and kept as they are given. Those that are accepted make a
configuration, which is what emission reads: a setting that is written into the output is used by
its text, and one that is a choice by its truth.
-/

namespace Runbook

structure Settings where
  /-- The file of the runtime module. -/
  runtimeModule : Value := .text "runtime.py"
  /-- The command that runs the runtime module. -/
  runtimeCommand : Value := .text "python3"
  /-- The tool that queries JSON. -/
  queryTool : Value := .text defaultQueryTool
  /-- The indentation of JSON in the input of agents. -/
  jsonIndent : Value := .int 2
  /-- Blocks after a certain end are left out. -/
  skipUnreachable : Value := .bool true
deriving Repr, Inhabited

/-- Settings that are in force. -/
structure Config where
  runtimeModule : String := "runtime.py"
  runtimeCommand : String := "python3"
  queryTool : String := defaultQueryTool
  /-- Absent if the setting is a number, but none by which text can be indented. -/
  jsonIndent : Option Nat := some 2
  skipUnreachable : Bool := true
deriving DecidableEq, Repr, Inhabited

/-- Why settings are refused. -/
inductive SettingsError where
  | unknownName (name : String)
  | indentNotNumber
  | negativeIndent
  | emptyModule
deriving DecidableEq, Repr, Inhabited

def SettingsError.message : SettingsError → String
  | .unknownName name => "there is no setting " ++ name
  | .indentNotNumber => "json_indent must be a number"
  | .negativeIndent => "json_indent must be non-negative"
  | .emptyModule => "runtime_module cannot be empty"

namespace Settings

def set (settings : Settings) (name : String) (value : Value) : Except SettingsError Settings :=
  match name with
  | "runtime_module" => .ok { settings with runtimeModule := value }
  | "runtime_command" => .ok { settings with runtimeCommand := value }
  | "query_tool" => .ok { settings with queryTool := value }
  | "json_indent" => .ok { settings with jsonIndent := value }
  | "skip_unreachable" => .ok { settings with skipUnreachable := value }
  | _ => .error (.unknownName name)

/-- Whether the indentation is below zero, if it is a number. -/
def indentIsNegative? : Value → Option Bool
  | .int n => some (n < 0)
  | .bool _ => some false
  | .float x => some x.isNegative
  | _ => none

/-- The number of blanks that an indentation is. -/
def indentWidth? : Value → Option Nat
  | .int n => some n.toNat
  | .bool b => some (if b then 1 else 0)
  | _ => none

/-- The configuration that the settings make. -/
def check (settings : Settings) : Except SettingsError Config :=
  match indentIsNegative? settings.jsonIndent with
  | none => .error .indentNotNumber
  | some true => .error .negativeIndent
  | some false =>
    if settings.runtimeModule.truthy then
      .ok {
        runtimeModule := settings.runtimeModule.display
        runtimeCommand := settings.runtimeCommand.display
        queryTool := settings.queryTool.display
        jsonIndent := indentWidth? settings.jsonIndent
        skipUnreachable := settings.skipUnreachable.truthy }
    else .error .emptyModule

def ofList (changes : List (String × Value)) : Except SettingsError Settings :=
  changes.foldlM (fun settings change ↦ settings.set change.1 change.2) {}

end Settings

end Runbook
