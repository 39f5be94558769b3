import Runbook.Value.Literal

/-!
# Failures in the log

A failure is written as its kind and its details. Most kinds show one detail as it is and several as
a tuple. A missing key is quoted; failures of the operating system have a number, a text and up to
two files; and failures of syntax show their first detail only.
-/

namespace Runbook

/-- A failure that a record reports. -/
structure Failure where
  kind : String
  details : List String := []
deriving DecidableEq, Repr, Inhabited

/-- How a kind of failures shows its details. -/
inductive DetailStyle where
  | plain
  /-- One detail is the key that is missing. -/
  | key
  /-- Two details and more are a number, a text, a file, something unused and another file. -/
  | system
  /-- The first detail is the message, and a second one without a third is a place. -/
  | grammar
deriving DecidableEq, Repr, Inhabited

/-- The kinds of failures of the operating system. -/
def systemKinds : List String :=
  ["OSError", "BlockingIOError", "BrokenPipeError", "ChildProcessError", "ConnectionAbortedError",
    "ConnectionError", "ConnectionRefusedError", "ConnectionResetError", "FileExistsError",
    "FileNotFoundError", "InterruptedError", "IsADirectoryError", "NotADirectoryError",
    "PermissionError", "ProcessLookupError", "TimeoutError"]

/-- Other names of the most general kind of failures of the operating system. -/
def systemAliases : List String := ["EnvironmentError", "IOError"]

/-- The kinds of failures of syntax. -/
def grammarKinds : List String := ["SyntaxError", "IndentationError", "TabError"]

namespace Failure

/-- A failure, if it can be made: the place of a failure of syntax has four or six characters. -/
def make? (kind : String) (details : List String) : Option Failure :=
  let kind := if systemAliases.contains kind then "OSError" else kind
  match details with
  | [_, place] =>
    if grammarKinds.contains kind && place.length != 4 && place.length != 6 then none
    else some ⟨kind, details⟩
  | _ => some ⟨kind, details⟩

/-- How the failure shows its details. -/
def style (failure : Failure) : DetailStyle :=
  if failure.kind = "KeyError" then .key
  else if systemKinds.contains failure.kind then .system
  else if grammarKinds.contains failure.kind then .grammar
  else .plain

/-- What details show as if their kind does not matter. -/
def plainDetail : List String → String
  | [] => ""
  | [detail] => detail
  | details => (Value.tuple (details.map .text)).literal

/-- What the details of a failure of the operating system show. -/
def systemDetail (details : List String) : String :=
  let numbered (number text : String) : String := "[Errno " ++ number ++ "] " ++ text
  match details with
  | [number, text] => numbered number text
  | [number, text, file] | [number, text, file, _] =>
    numbered number text ++ ": " ++ Text.quoted file
  | [number, text, file, _, other] =>
    numbered number text ++ ": " ++ Text.quoted file ++ " -> " ++ Text.quoted other
  | _ => plainDetail details

/-- What the details of a failure of syntax show. A place cannot be shown. -/
def grammarDetail? : List String → Option String
  | [_, _] => none
  | [] | "" :: _ => some "<no detail available>"
  | message :: _ => some message

/-- What the details show, if they can be shown. -/
def detail? (failure : Failure) : Option String :=
  match failure.style, failure.details with
  | .key, [key] => some (Text.quoted key)
  | .system, details => some (systemDetail details)
  | .grammar, details => grammarDetail? details
  | _, details => some (plainDetail details)

/-- The failure with what its details show, if that is anything. -/
def text? (failure : Failure) : Option String :=
  failure.detail?.map fun detail ↦
    if detail.isEmpty then failure.kind else failure.kind ++ ": " ++ detail

end Failure

end Runbook
