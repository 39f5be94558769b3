import Runbook.Document.Kind
import Runbook.Schema.Scalar
import Runbook.Value.Sequence

/-!
# Reading records and sequences

The fields of a record are read by name, in the order in which the record declares them; fields
that it does not declare are ignored. A field that holds a sequence takes a list, a tuple or a
record, but no mapping and no text.
-/

namespace Runbook

/-- Fields by name. -/
abbrev Record := String → Option Value

namespace Record

/-- The fields of a mapping. -/
def ofEntries (entries : List (Value × Value)) : Record := fun name ↦
  (entries.find? fun entry ↦ entry.1.text? == some name).map Prod.snd

def ofList (fields : List (String × Value)) : Record := fun name ↦ fields.lookup name

def required {α : Type} (record : Record) (name : String) (read : Value → Read α) : Read α :=
  match record name with
  | some value => (read value).below name
  | none => (Read.refuse .missing).below name

def field {α : Type} (record : Record) (name : String) (default : α) (read : Value → Read α) :
    Read α :=
  match record name with
  | some value => (read value).below name
  | none => .ok default

/-- A field that holds any value. -/
def requiredAny (record : Record) (name : String) : Read Value := record.required name .ok

/-- A field that holds any value or is absent. -/
def any (record : Record) (name : String) (default : Value) : Value := (record name).getD default

/-- A field that is a text or absent. -/
def text? (record : Record) (name : String) : Read (Option String) :=
  record.field name none (Read.optional Read.text)

/-- The kind that a record declares has to be the expected one. -/
def checkKind (record : Record) (kind : Kind) : Read Unit :=
  record.field "kind" () fun value ↦ (Read.member [kind] Kind.name value).map fun _ ↦ ()

end Record

namespace Read

/-- The items of a sequence from the given position on. -/
def each {α : Type} (read : Value → Read α) (index : Nat) : List Value → Read (List α)
  | [] => .ok []
  | item :: rest => do
    let first ← (read item).below (toString index)
    let others ← each read (index + 1) rest
    return first :: others

def list {α : Type} (read : Value → Read α) (value : Value) : Read (List α) :=
  match value.sequence? with
  | some items => each read 0 items
  | none => refuse .notList

def listOfLength {α : Type} (least : Nat) (read : Value → Read α) (value : Value) :
    Read (List α) := do
  let items ← list read value
  if items.length < least then refuse (.shortList least items.length) else return items

def keyPart : Value → String
  | .text s => s
  | .member m => m.text
  | .bool b => if b then "1" else "0"
  | key => key.literal

/-- The entries of a mapping whose keys are texts. -/
def entries {α : Type} (read : Value → Read α) :
    List (Value × Value) → Read (List (String × α))
  | [] => .ok []
  | (key, value) :: rest => do
    let name ← ((text key).below "[key]").below (keyPart key)
    let first ← (read value).below (keyPart key)
    let others ← entries read rest
    return (name, first) :: others

/-- A mapping whose keys are texts. -/
def mapping {α : Type} (read : Value → Read α) : Value → Read (List (String × α))
  | .mapping list => entries read list
  | _ => refuse .notMapping

end Read

/-! ## Staged values -/

namespace Staged

/-- A step of a path; truth values and integral numbers stand for positions. -/
def readSegment : Value → Read Segment
  | .text name => .ok (.key name)
  | .member m => .ok (.key m.text)
  | .int n => .ok (.index n)
  | .bool b => .ok (.index (if b then 1 else 0))
  | .float x =>
    match Read.integer (.float x) with
    | .ok n => .ok (.index n)
    | .error _ => (Read.refuse .notText).below "str"
  | _ => (Read.refuse .notText).below "str"

def readPath (value : Value) : Read (List Segment) :=
  match value.sequence? with
  | some items => Read.each readSegment 0 items
  | none => Read.refuse .notTuple

/-- A staged value from its fields. -/
def ofRecord (record : Record) : Read Staged := do
  let root ← record.required "root" Read.text
  let path ← record.field "path" [] readPath
  return ⟨root, path⟩

/-- A staged value, or a mapping of its fields. -/
def read : Value → Read Staged
  | .staged value => .ok value
  | .mapping entries => ofRecord (.ofEntries entries)
  | _ => Read.refuse (.notRecord "StagedValue")

end Staged

namespace Content

/-- A text or a staged value. -/
def read (value : Value) : Read Content :=
  match Read.text value, Staged.read value with
  | .ok s, _ => .ok (.text s)
  | _, .ok found => .ok (.staged found)
  | .error fault, _ => Read.below "str" (.error fault)

end Content

end Runbook
