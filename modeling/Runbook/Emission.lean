import Runbook.Staged.Cache
import Runbook.Value.Literal

/-!
# Emissions

Writing a document needs the shell expressions of the staged values that it meets. An emission is
the writing as a program: it asks for one expression after the other and ends with a result or an
error. It does not say where the expressions come from, so the same emission can be run with a
cache and be evaluated without one.

Memory and the depth of recursion are without bound here, and an integer of any size has a decimal
text: the limits of a machine and of an interpreter's settings are left out everywhere. The one
limit that stays is that of lengths. A text is repeated fewer than `lengthLimit` times; a greater
count is refused before any memory is asked for.
-/

namespace Runbook

/-- Why a document cannot be written. -/
inductive EmitError where
  /-- An else-branch does not follow a conditional. -/
  | danglingElse
  /-- A slot that names an external variable holds something else. -/
  | notVariable (slot : String) (value : Value)
  /-- The output that a status branch reads is not staged. -/
  | statusNotStaged
  | notCondition (value : Value)
  | badBound (value : Value)
  /-- The data has no JSON text. -/
  | unserializable
  /-- The data has no YAML text. -/
  | unwritable
  /-- The length of a run of blanks is out of the range of lengths. -/
  | lengthOverflow
deriving Repr, Inhabited

namespace EmitError

/-- The document should have been rejected before it was written. -/
def isInvariant : EmitError → Bool
  | .unserializable | .unwritable | .lengthOverflow => false
  | _ => true

/-- The message for a value that stands for no condition. -/
def conditionMessage (value : Value) : String :=
  "cannot use " ++ value.typeName ++ " as a condition"

/-- What went wrong. -/
def message : EmitError → String
  | .danglingElse => "else-branch reached the emitter without a conditional"
  | .notVariable slot value =>
    slot ++ " does not name an external variable: " ++ value.literal
  | .statusNotStaged => "status-branch output is not a staged value"
  | .notCondition value => conditionMessage value
  | .badBound value => "loop bound " ++ value.literal ++ " reached the emitter"
  | .unserializable => "the value has no JSON text"
  | .unwritable => "the value has no YAML text"
  | .lengthOverflow => "there are too many blanks"

end EmitError

/-- A program that asks for expressions of staged values. -/
inductive Emission (α : Type) where
  | done (value : α)
  | fail (error : EmitError)
  | ask (lookup : Lookup) (next : String → Emission α)

namespace Emission

variable {α β : Type}

/-- Goes on with the result of an emission. -/
def bind (emission : Emission α) (f : α → Emission β) : Emission β :=
  match emission with
  | .done value => f value
  | .fail error => .fail error
  | .ask lookup next => .ask lookup fun text ↦ (next text).bind f

instance : Monad Emission where
  pure := .done
  bind := bind

@[simp]
theorem pure_eq (value : α) : (pure value : Emission α) = .done value := rfl

@[simp]
theorem done_bind (value : α) (f : α → Emission β) : (Emission.done value >>= f) = f value := rfl

@[simp]
theorem fail_bind (error : EmitError) (f : α → Emission β) :
    (Emission.fail error >>= f) = .fail error := rfl

@[simp]
theorem ask_bind (lookup : Lookup) (next : String → Emission α) (f : α → Emission β) :
    (Emission.ask lookup next >>= f) = .ask lookup fun text ↦ next text >>= f := rfl

private theorem bind_done (emission : Emission α) : (emission >>= Emission.done) = emission := by
  induction emission with
  | done value => rfl
  | fail error => rfl
  | ask lookup next ih => simp [ih]

theorem bind_assoc {γ : Type} (emission : Emission α) (f : α → Emission β) (g : β → Emission γ) :
    (emission >>= f >>= g) = emission >>= fun value ↦ f value >>= g := by
  induction emission with
  | done value => rfl
  | fail error => rfl
  | ask lookup next ih => simp [ih]

instance : LawfulMonad Emission :=
  LawfulMonad.mk' Emission bind_done done_bind bind_assoc

/-- The raw expression of a staged value. -/
def raw (value : Staged) : Emission String := .ask ⟨.raw, value⟩ .done

/-- The expression for the JSON text of a staged value. -/
def json (value : Staged) : Emission String := .ask ⟨.json, value⟩ .done

def content : Content → Emission String
  | .text text => .done text
  | .staged value => raw value

/-- Counts of repetitions are below this. -/
def lengthLimit : Nat := Nat.pow 2 63

/-- Fails if the given count is too great for a run of blanks. -/
def checkBlanks (count : Nat) : Emission Unit :=
  if count < lengthLimit then .done () else .fail .lengthOverflow

/-- Evaluates an emission; each expression is made anew. -/
def eval (tool : String) : Emission α → Except EmitError α
  | .done value => .ok value
  | .fail error => .error error
  | .ask lookup next => (next (lookup.resolve tool)).eval tool

/-- Runs an emission with a cache. What was looked up before a failure stays in the cache. -/
def run (tool : String) (cache : Cache) : Emission α → Except EmitError α × Cache
  | .done value => (.ok value, cache)
  | .fail error => (.error error, cache)
  | .ask lookup next =>
    let found := cache.find tool lookup
    (next found.1).run tool found.2

end Emission

end Runbook
