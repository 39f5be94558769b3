import Runbook.Schema.Tagged

/-!
# Reading conditions

Conditions are read from mappings, or built from values: a builder takes whatever stands for a
condition as an operand.
-/

namespace Runbook

namespace Operand

/-- The right side of a comparison. -/
def read : Value → Read Operand
  | .null => .ok .null
  | .bool b => .ok (.bool b)
  | .int n => .ok (.int n)
  | .float x => .ok (.float x)
  | .text s => .ok (.text s)
  | .member m => .ok (.text m.text)
  | value => Read.below "StagedValue" ((Staged.read value).map Operand.staged)

end Operand

namespace Condition

/-- A test of the truth of a staged value, from its fields. -/
def refOfRecord (record : Record) : Read Condition := do
  return .ref (← record.required "value" Staged.read)

def compareOfRecord (record : Record) : Read Condition := do
  let op ← record.required "op" (Read.member CompareOp.all CompareOp.name)
  let left ← record.required "left" Staged.read
  let right ← record.field "right" .null Operand.read
  return .compare op left right

def shellTestOfRecord (record : Record) : Read Condition := do
  return .shellTest (← record.required "test" Read.nonEmptyText)

/-- The operands of a conjunction or disjunction are at least two. -/
def checkOperands (operands : List Condition) : Read (List Condition) :=
  if operands.length < 2 then
    (Read.refuse (.shortList 2 operands.length)).below "operands"
  else .ok operands

/-- A condition of a known form from its fields. -/
def ofRecord (form : Form) (record : Record) (operand : Read Condition)
    (operands : Read (List Condition)) : Read Condition :=
  match form with
  | .ref => refOfRecord record
  | .literal => do return .literal (← record.required "value" Read.bool)
  | .not => do return .not (← operand)
  | .all => do return .all (← checkOperands (← operands))
  | .any => do return .any (← checkOperands (← operands))
  | .compare => compareOfRecord record
  | .shellTest => shellTestOfRecord record

mutual
def read : Value → Read Condition
  | .condition condition => .ok condition
  | .mapping entries => do
    let form ← (Record.ofEntries entries).kindIn Form.every Form.name
    let fields := Record.ofEntries entries
    (ofRecord form fields (readOperand entries) (readOperands entries)).below form.name
  | value => Read.noNode (Form.every.map Form.name) value

/-- The operand among the fields. -/
def readOperand : List (Value × Value) → Read Condition
  | [] => (Read.refuse .missing).below "operand"
  | (key, value) :: rest =>
    if key.text? = some "operand" then (read value).below "operand" else readOperand rest

/-- The operands among the fields. -/
def readOperands : List (Value × Value) → Read (List Condition)
  | [] => (Read.refuse .missing).below "operands"
  | (key, value) :: rest =>
    if key.text? = some "operands" then (readList value).below "operands" else readOperands rest

/-- A list of conditions. No field of a record is one. -/
def readList : Value → Read (List Condition)
  | .list items => readEach 0 items
  | .tuple items => readEach 0 items
  | value => Read.list (Read.noNode (Form.every.map Form.name)) value

def readEach (index : Nat) : List Value → Read (List Condition)
  | [] => .ok []
  | item :: rest => do
    let first ← (read item).below (toString index)
    let others ← readEach (index + 1) rest
    return first :: others
end

/-! ## Builders -/

/-- Why a condition cannot be built. -/
inductive BuildError where
  | notCondition (value : Value)
  | fault (fault : Fault)
deriving Repr, Inhabited

/-- What a builder yields. -/
abbrev Build := Except BuildError

namespace Build

def ofValue (value : Value) : Build Condition :=
  match ofValue? value with
  | some condition => .ok condition
  | none => .error (.notCondition value)

def ofValues : List Value → Build (List Condition)
  | [] => .ok []
  | value :: rest => do
    let first ← ofValue value
    let others ← ofValues rest
    return first :: others

def ofRead {α : Type} (read : Read α) : Build α :=
  match read with
  | .ok value => .ok value
  | .error fault => .error (.fault fault)

/-- A test of the truth of a staged value. -/
def ref (value : Value) : Build Condition := ofRead (refOfRecord (.ofList [("value", value)]))

def not (operand : Value) : Build Condition := do return .not (← ofValue operand)

def all (operands : List Value) : Build Condition := do
  return .all (← ofRead (checkOperands (← ofValues operands)))

def any (operands : List Value) : Build Condition := do
  return .any (← ofRead (checkOperands (← ofValues operands)))

def compare (op : CompareOp) (left right : Value) : Build Condition :=
  ofRead (compareOfRecord (.ofList [("op", .text op.name), ("left", left), ("right", right)]))

def shellTest (test : Value) : Build Condition :=
  ofRead (shellTestOfRecord (.ofList [("test", test)]))

end Build

end Condition

end Runbook
