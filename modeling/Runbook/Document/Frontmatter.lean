import Runbook.Value.Literal

/-!
# Frontmatter

Frontmatter is plain data: scalars and staged values in sequences and in mappings whose keys are
texts. Anything else is refused when a document is made. A member of an enumeration passes for its
text, also as a key below the first level, although it has no YAML text; all other plain data can be
written.
-/

namespace Runbook

/-- A key of plain data. -/
inductive DatumKey where
  | text (name : String)
  | member (value : Member)
deriving DecidableEq, Repr, Inhabited

namespace DatumKey

def ofValue? : Value → Option DatumKey
  | .text name => some (.text name)
  | .member m => some (.member m)
  | _ => none

def toValue : DatumKey → Value
  | .text name => .text name
  | .member m => .member m

def name : DatumKey → String
  | .text name => name
  | .member m => m.text

def shown : DatumKey → String
  | .text name => name
  | .member m => m.display

end DatumKey

/-- Plain data. -/
inductive Datum where
  | null
  | bool (value : Bool)
  | int (value : Int)
  | float (value : Binary64)
  | text (value : String)
  | staged (value : Staged)
  | member (value : Member)
  | list (items : List Datum)
  | tuple (items : List Datum)
  | map (entries : List (DatumKey × Datum))
deriving Repr, Inhabited

/-- Named plain data, in the order of the names. -/
abbrev Frontmatter := List (String × Datum)

/-- Why a value is not plain data; `place` says where it stands. -/
inductive DatumFault where
  | badKey (place : String) (key : Value)
  | badValue (place : String) (value : Value)
deriving Repr, Inhabited

/-- What is wrong with a value that is not plain data. -/
def DatumFault.message : DatumFault → String
  | .badKey place key => place ++ " key " ++ key.literal ++ " is not a string"
  | .badValue place value =>
    place ++ " holds " ++ value.typeName ++ ", which YAML cannot represent"

namespace Datum

mutual
/-- The plain data that a value is. -/
def ofValue (place : String) : Value → Except DatumFault Datum
  | .null => .ok .null
  | .bool b => .ok (.bool b)
  | .int n => .ok (.int n)
  | .float x => .ok (.float x)
  | .text s => .ok (.text s)
  | .staged v => .ok (.staged v)
  | .member m => .ok (.member m)
  | .list items => (ofItems place 0 items).map .list
  | .tuple items => (ofItems place 0 items).map .tuple
  | .mapping entries => (ofEntries place entries).map .map
  | value => .error (.badValue place value)

/-- The plain data that the items of a sequence are. -/
def ofItems (place : String) (index : Nat) : List Value → Except DatumFault (List Datum)
  | [] => .ok []
  | item :: rest => do
    let first ← ofValue (place ++ "[" ++ toString index ++ "]") item
    let others ← ofItems place (index + 1) rest
    return first :: others

/-- The plain data that the entries of a mapping are. -/
def ofEntries (place : String) :
    List (Value × Value) → Except DatumFault (List (DatumKey × Datum))
  | [] => .ok []
  | (key, value) :: rest =>
    match DatumKey.ofValue? key with
    | some name => do
      let first ← ofValue (place ++ "." ++ name.shown) value
      let others ← ofEntries place rest
      return (name, first) :: others
    | none => .error (.badKey place key)
end

/-- The frontmatter that named values are. -/
def ofFields (place : String) : List (String × Value) → Except DatumFault Frontmatter
  | [] => .ok []
  | (name, value) :: rest => do
    let first ← ofValue (place ++ "." ++ name) value
    let others ← ofFields place rest
    return (name, first) :: others

mutual
/-- Plain data as a value. -/
def toValue : Datum → Value
  | .null => .null
  | .bool b => .bool b
  | .int n => .int n
  | .float x => .float x
  | .text s => .text s
  | .staged v => .staged v
  | .member m => .member m
  | .list items => .list (toValues items)
  | .tuple items => .tuple (toValues items)
  | .map entries => .mapping (toEntries entries)

/-- The items of a sequence as values. -/
def toValues : List Datum → List Value
  | [] => []
  | item :: rest => toValue item :: toValues rest

def toEntries : List (DatumKey × Datum) → List (Value × Value)
  | [] => []
  | (key, item) :: rest => (key.toValue, toValue item) :: toEntries rest
end

/-! ## Data without members -/

mutual
/-- The data has a YAML text: there is no member of an enumeration in it. -/
def isWritable : Datum → Bool
  | .member _ => false
  | .list items => areWritable items
  | .tuple items => areWritable items
  | .map entries => hasWritable entries
  | _ => true

def areWritable : List Datum → Bool
  | [] => true
  | item :: rest => isWritable item && areWritable rest

def hasWritable : List (DatumKey × Datum) → Bool
  | [] => true
  | (.text _, item) :: rest => isWritable item && hasWritable rest
  | (.member _, _) :: _ => false
end

end Datum

namespace Frontmatter

def entries (data : Frontmatter) : List (Value × Value) :=
  data.map fun entry ↦ (.text entry.1, entry.2.toValue)

/-- Frontmatter has a YAML text. -/
def isWritable (data : Frontmatter) : Bool := data.all fun entry ↦ entry.2.isWritable

end Frontmatter

end Runbook
