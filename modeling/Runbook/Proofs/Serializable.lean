import Runbook.Markdown.Splice
import Runbook.Proofs.Yields

/-!
# Data that has JSON text

Agents' inputs and the arguments of staged functions hold any data. Data is written as JSON if it is
made of scalars and staged values in sequences and mappings. Keys do not matter: they are written by
their texts, whatever they are, so a mapping is as good as the values in it.

Marking comes before writing. It may drop values, because two keys can have one text, but it brings
no new ones in, so marked data has JSON text in every style (`isSome_jsonAt?_mark`).
-/

namespace Runbook

namespace Value

mutual
/-- The value is made of scalars, staged values, sequences and mappings. -/
def isSerializable : Value → Bool
  | .null | .bool _ | .int _ | .float _ | .text _ | .member _ | .staged _ => true
  | .list items => areSerializable items
  | .tuple items => areSerializable items
  | .mapping entries => hasSerializable entries
  | _ => false

def areSerializable : List Value → Bool
  | [] => true
  | item :: rest => isSerializable item && areSerializable rest

/-- All values of entries are serializable. -/
def hasSerializable : List (Value × Value) → Bool
  | [] => true
  | (_, value) :: rest => isSerializable value && hasSerializable rest
end

end Value

/-! ## JSON text of marked data -/

namespace Markdown

variable (style : JsonStyle)

private theorem isSome_jsonEntries?_textDict (depth : Nat) (entries : List (String × Value))
    (h : ∀ entry ∈ entries, (entry.2.jsonAt? style depth).isSome = true) :
    (Value.jsonEntries? style depth
      (entries.map fun entry ↦ (.text entry.1, entry.2))).isSome = true := by
  induction entries with
  | nil => rfl
  | cons entry rest ih =>
    obtain ⟨text, htext⟩ := Option.isSome_iff_exists.mp (h entry List.mem_cons_self)
    obtain ⟨texts, htexts⟩ := Option.isSome_iff_exists.mp
      (ih fun other hother ↦ h other (List.mem_cons_of_mem _ hother))
    rw [List.map_cons, Value.jsonEntries?, htext, htexts]
    rfl

-- The statements on sequences and on mappings differ: of a mapping only each value is shown to be
-- fine, because the entries are merged before they are written.
mutual
theorem isSome_jsonAt?_mark (start depth : Nat) (value : Value)
    (h : value.isSerializable = true) :
    ((mark start value).1.jsonAt? style depth).isSome = true := by
  match value with
  | .null | .bool _ | .int _ | .float _ | .text _ | .member _ | .staged _ =>
    simp [mark, Value.jsonAt?]
  | .list items =>
    rw [Value.isSerializable] at h
    simpa [mark, Value.jsonAt?] using isSome_jsonItems?_markItems start (depth + 1) items h
  | .tuple items =>
    rw [Value.isSerializable] at h
    simpa [mark, Value.jsonAt?] using isSome_jsonItems?_markItems start (depth + 1) items h
  | .mapping entries =>
    rw [Value.isSerializable] at h
    rw [mark, textDict, Value.jsonAt?, Option.isSome_map]
    refine isSome_jsonEntries?_textDict style (depth + 1) _ fun entry hentry ↦ ?_
    exact isSome_jsonAt?_of_mem_markEntries start (depth + 1) entries h entry (mem_setNames hentry)
  | .condition _ | .element .. | .choice _ | .criterion _ | .route _ | .handle _ | .foreign _ =>
    exact absurd h (by simp [Value.isSerializable])

theorem isSome_jsonItems?_markItems (start depth : Nat) (items : List Value)
    (h : Value.areSerializable items = true) :
    (Value.jsonItems? style depth (markItems start items).1).isSome = true := by
  match items with
  | [] => rfl
  | item :: rest =>
    rw [Value.areSerializable, Bool.and_eq_true] at h
    obtain ⟨text, htext⟩ := Option.isSome_iff_exists.mp (isSome_jsonAt?_mark start depth item h.1)
    obtain ⟨texts, htexts⟩ := Option.isSome_iff_exists.mp
      (isSome_jsonItems?_markItems (start + (mark start item).2.length) depth rest h.2)
    rw [markItems, Value.jsonItems?, htext, htexts]
    rfl

theorem isSome_jsonAt?_of_mem_markEntries (start depth : Nat) (entries : List (Value × Value))
    (h : Value.hasSerializable entries = true) (entry : String × Value)
    (hentry : entry ∈ (markEntries start entries).1) :
    (entry.2.jsonAt? style depth).isSome = true := by
  match entries with
  | [] => exact absurd hentry (by simp [markEntries])
  | (key, value) :: rest =>
    rw [Value.hasSerializable, Bool.and_eq_true] at h
    rw [markEntries] at hentry
    rcases List.mem_cons.mp hentry with rfl | hrest
    · exact isSome_jsonAt?_mark start depth value h.1
    · exact isSome_jsonAt?_of_mem_markEntries _ depth rest h.2 entry hrest
end

/-! ## Failures of splicing -/

theorem yields_error_markedJson {value : Value} {error : EmitError}
    (h : (markedJson style value).Yields (.error error)) :
    error = .unserializable ∧ value.isSerializable = false := by
  rw [markedJson] at h
  split at h
  · exact absurd h (by simp)
  · next hnone =>
    refine ⟨by simpa using h, Bool.eq_false_iff.mpr fun hvalue ↦ ?_⟩
    have hsome := isSome_jsonAt?_mark style 0 0 value hvalue
    rw [Value.json?] at hnone
    rw [hnone] at hsome
    exact absurd hsome nofun

/-- A shell word can be made of all serializable data. -/
theorem yields_error_shellJson {value : Value} {error : EmitError}
    (h : (shellJson value).Yields (.error error)) :
    error = .unserializable ∧ value.isSerializable = false := by
  simp only [shellJson, Emission.yields_bind_error, not_yields_error_spliceShell,
    Emission.pure_eq, Emission.yields_done, reduceCtorEq, and_false, exists_false, or_false] at h
  exact yields_error_markedJson .compact h

end Markdown

end Runbook
