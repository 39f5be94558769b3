import Runbook.Number.Numeral
import Runbook.Schema.Fault

/-!
# Reading scalars

Scalars are read leniently: a truth value may stand for an integer, an integral number with a
fraction part for an integer, and some texts for truth values and integers. A member of an
enumeration of texts is read as its text.
-/

namespace Runbook

namespace Read

def text (value : Value) : Read String :=
  match value.text? with
  | some s => .ok s
  | none => refuse .notText

def nonEmptyText (value : Value) : Read String := do
  let s ← text value
  if s.isEmpty then refuse (.shortText 1) else return s

/-- A value that may be absent. -/
def optional {α : Type} (read : Value → Read α) : Value → Read (Option α)
  | .null => .ok none
  | value => (read value).map some

/-- The integers that a number with a fraction part can stand for lie strictly between this one and
its opposite. -/
def wideRange : Int := Int.ofNat (Nat.pow 2 63)

def integerOfText (s : String) : Read Int :=
  match Numeral.read s with
  | .ok n => .ok n
  | .error .oversized => refuse .oversizedInt
  | .error .unreadable => refuse .unreadableInt

def integer : Value → Read Int
  | .int n => .ok n
  | .bool b => .ok (if b then 1 else 0)
  | .float x =>
    if !x.isFinite then refuse .infiniteInt
    else match x.toInt? with
      | none => refuse .fractionalInt
      | some n => if -wideRange < n ∧ n < wideRange then .ok n else refuse .oversizedInt
  | .text s => integerOfText s
  | .member m => integerOfText m.text
  | _ => refuse .notInt

/-- A natural number that is at least `least` and, if there is a greatest one, at most `most`. -/
def natural (least : Nat) (most : Option Nat) (value : Value) : Read Nat := do
  let n ← integer value
  if n < least then refuse (.below least)
  else match most with
    | some greatest => if n.toNat ≤ greatest then return n.toNat else refuse (.above greatest)
    | none => return n.toNat

/-- The texts that mean true. -/
def trueTexts : List String := ["1", "on", "t", "true", "y", "yes"]

/-- The texts that mean false. -/
def falseTexts : List String := ["0", "off", "f", "false", "n", "no"]

/-- The truth value that an integer stands for. -/
def boolOfInt (n : Int) : Read Bool :=
  if n = 0 then .ok false else if n = 1 then .ok true else refuse .unreadableBool

/-- The truth value that a text means. -/
def boolOfText (s : String) : Read Bool :=
  let lower := String.ofList (s.toList.map Char.toLower)
  if trueTexts.contains lower then .ok true
  else if falseTexts.contains lower then .ok false
  else refuse .unreadableBool

def bool : Value → Read Bool
  | .bool b => .ok b
  | .int n => if -wideRange ≤ n ∧ n < wideRange then boolOfInt n else refuse .notBool
  | .float x =>
    match x.toInt? with
    | some n => if -wideRange < n ∧ n < wideRange then boolOfInt n else refuse .notBool
    | none => refuse .notBool
  | .text s => boolOfText s
  | .member m => boolOfText m.text
  | _ => refuse .notBool

def member {α : Type} (all : List α) (name : α → String) (value : Value) : Read α :=
  match value.text?.bind fun s ↦ all.find? fun a ↦ name a == s with
  | some a => .ok a
  | none => refuse (.notMember (all.map name))

end Read

end Runbook
