import Runbook.Log.Failure
import Runbook.Log.Scope
import Runbook.Value.Json
import Runbook.Value.Sequence

/-!
# Log records

A record is written on one line, for reading or as JSON. In JSON its own counters follow what every
record has, and may replace it.
-/

namespace Runbook

/-! ## Levels -/

/-- The severity of a record; a greater one is more severe. -/
abbrev Level := Int

namespace Level

/-- For those who follow the program in detail. -/
def debug : Level := 10

/-- For those who want to know what was done. -/
def info : Level := 20

/-- For what may be a mistake. -/
def warning : Level := 30

def name (level : Level) : String :=
  if level = 0 then "NOTSET"
  else if level = 10 then "DEBUG"
  else if level = 20 then "INFO"
  else if level = 30 then "WARNING"
  else if level = 40 then "ERROR"
  else if level = 50 then "CRITICAL"
  else "Level " ++ toString level

end Level

/-! ## Records -/

/-- What is logged at one moment. -/
structure LogRecord where
  level : Level
  /-- The part of the program that logs. -/
  logger : String
  message : String
  scope : Scope := {}
  /-- Counters, or nothing. -/
  fields : Value := .null
  failure : Option Failure := none
deriving Repr, Inhabited

def loggerName (component : String) : String := "agentdoc." ++ component

/-- Why a record has no text. -/
inductive RecordError where
  /-- The counters are no mapping. -/
  | notMapping (error : Value.PairError)
  /-- The counters hold something that has no JSON text. -/
  | unserializable
  /-- The details of its failure cannot be shown. -/
  | unshown
deriving DecidableEq, Repr, Inhabited

namespace LogRecord

def whereText (record : LogRecord) : String :=
  let unit := match record.scope.name with
    | none | some "" => "-"
    | some name => name
  match record.scope.stage with
  | none | some "" => unit
  | some stage => unit ++ ":" ++ stage

def levelWidth : Nat := 7

def failureText (record : LogRecord) : Except RecordError (Option String) :=
  match record.failure with
  | none => .ok none
  | some failure =>
    match failure.text? with
    | some text => .ok (some text)
    | none => .error .unshown

def readable (record : LogRecord) : Except RecordError String := do
  let level := record.level.name
  let line := level ++ Text.spaces (levelWidth - level.length) ++ " [" ++ record.whereText ++
    "] " ++ record.logger ++ ": " ++ record.message
  match ← record.failureText with
  | none => return line
  | some failure => return line ++ "\n" ++ failure

def commonEntries (time : String) (record : LogRecord) : List (Value × Value) :=
  [("timestamp", Value.text time), ("level", .text record.level.name),
    ("logger", .text record.logger), ("message", .text record.message),
    ("unit_id", .ofText? record.scope.unitId), ("unit_name", .ofText? record.scope.name),
    ("stage", .ofText? record.scope.stage)].map fun (name, value) ↦ (.text name, value)

def counters (record : LogRecord) : Except RecordError (List (Value × Value)) :=
  if record.fields.truthy then
    match record.fields.pairs with
    | .ok entries => .ok entries
    | .error error => .error (.notMapping error)
  else .ok []

/-- A record in JSON: what every record has, the counters, and the failure. -/
def json (time : String) (record : LogRecord) : Except RecordError String := do
  let counted := Value.setKeys (record.commonEntries time) (← record.counters)
  let entries := match ← record.failureText with
    | none => counted
    | some failure => Value.setKey (.text "exception") (.text failure) counted
  match (Value.mapping entries).json? .spaced with
  | some text => return text
  | none => throw .unserializable

end LogRecord

/-! ## Writing -/

/-- How records are written. -/
inductive Layout where
  | readable
  | json
deriving DecidableEq, Repr, Inhabited

def LogRecord.format (layout : Layout) (time : String) (record : LogRecord) :
    Except RecordError String :=
  match layout with
  | .readable => record.readable
  | .json => record.json time

/-- How the log is set up. -/
structure LogSetup where
  /-- The least level that is written. -/
  level : Level := .info
  layout : Layout := .readable
deriving DecidableEq, Repr, Inhabited

namespace LogSetup

/-- The least level in force: without one, only warnings and worse are written. -/
def threshold (setup : LogSetup) : Level := if setup.level = 0 then .warning else setup.level

def writes (setup : LogSetup) (level : Level) : Bool := 0 < level && setup.threshold ≤ level

/-- The line of a record. There is none for a level that is not written, or for a record that has
no text. -/
def line (setup : LogSetup) (time : String) (record : LogRecord) : String :=
  if setup.writes record.level then
    match record.format setup.layout time with
    | .ok text => text ++ "\n"
    | .error _ => ""
  else ""

def lines (setup : LogSetup) (time : String) (records : List LogRecord) : String :=
  Text.join "" (records.map (setup.line time))

end LogSetup

end Runbook
