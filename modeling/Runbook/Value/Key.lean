import Runbook.Value.Literal

/-!
# Keys of mappings

A key is equal to another if it has the same value, whatever the types: one, true and one as a
binary64 number are one key, and so are a text and a member that is this text. Tuples and records
are one key if their parts are. Sequences and mappings that can change are no keys at all.
-/

namespace Runbook

namespace Value

/-- A number by its value alone. -/
inductive Numeric where
  | int (value : Int)
  | float (value : Binary64)
deriving DecidableEq, Repr, Inhabited

def numeric? : Value → Option Numeric
  | .bool b => some (.int (if b then 1 else 0))
  | .int n => some (.int n)
  | .float x =>
    match x.toInt? with
    | some n => some (.int n)
    | none => some (.float x)
  | _ => none

/-- Equality of numbers: not a number differs from itself. -/
def Numeric.eqv : Numeric → Numeric → Bool
  | .int m, .int n => m == n
  | .float x, .float y => x.eqv y
  | _, _ => false

end Value

/-! ## Equal keys -/

/-- The two right sides of a comparison are one key. -/
def Operand.sameKey (operand other : Operand) : Bool :=
  match (Value.ofOperand operand).numeric?, (Value.ofOperand other).numeric? with
  | some x, some y => x.eqv y
  | _, _ => operand == other

namespace Condition

/-- The condition holds no list of operands, so it may be a key. -/
def isKey : Condition → Bool
  | .not operand => operand.isKey
  | .all _ | .any _ => false
  | _ => true

/-- The two conditions are one key. -/
def sameKey : Condition → Condition → Bool
  | .ref value, .ref other => value == other
  | .literal value, .literal other => value == other
  | .not operand, .not other => operand.sameKey other
  | .compare op left right, .compare otherOp otherLeft otherRight =>
    op == otherOp && left == otherLeft && right.sameKey otherRight
  | .shellTest test, .shellTest other => test == other
  | _, _ => false

end Condition

/-- The two handles are one key: they agree in all but the build that owns them. -/
def Handle.sameKey (handle other : Handle) : Bool := { handle with owner := other.owner } == other

namespace Value

mutual
/-- The two values are one key. -/
def sameKey : Value → Value → Bool
  | .null, .null => true
  | .text s, .text t => s == t
  | .text s, .member b => s == b.text
  | .member a, .text t => a.text == t
  | .member a, .member b => a.text == b.text
  | .tuple items, .tuple others => sameKeys items others
  | .staged a, .staged b => a == b
  | .condition a, .condition b => a.sameKey b
  | .choice a, .choice b => a == b
  | .criterion a, .criterion b => a == b
  | .route a, .route b => a == b
  | .handle a, .handle b => a.sameKey b
  | key, other =>
    match key.numeric?, other.numeric? with
    | some x, some y => x.eqv y
    | _, _ => false

/-- The two sequences have the same keys at each place. -/
def sameKeys : List Value → List Value → Bool
  | [], [] => true
  | item :: rest, other :: others => sameKey item other && sameKeys rest others
  | _, _ => false
end

mutual
def isKey : Value → Bool
  | .list _ | .mapping _ | .element .. => false
  | .tuple items => areKeys items
  | .condition c => c.isKey
  | _ => true

def areKeys : List Value → Bool
  | [] => true
  | item :: rest => isKey item && areKeys rest
end

/-- Sets a key. A key that is there keeps its place and its spelling and gets the new value. -/
def setKey (key value : Value) : List (Value × Value) → List (Value × Value)
  | [] => [(key, value)]
  | (other, old) :: rest =>
    if sameKey other key then (other, value) :: rest else (other, old) :: setKey key value rest

/-- The mapping made by setting the keys in order, if all of them may be keys. -/
def ofEntries? (entries : List (Value × Value)) : Option Value :=
  if entries.all (fun entry ↦ entry.1.isKey) then
    some (.mapping (entries.foldl (fun set entry ↦ setKey entry.1 entry.2 set) []))
  else none

end Value

/-- Sets a name among named values. A name that is there keeps its place and gets the new value. -/
def setName {α : Type} (name : String) (value : α) : List (String × α) → List (String × α)
  | [] => [(name, value)]
  | (other, old) :: rest =>
    if other = name then (other, value) :: rest else (other, old) :: setName name value rest

/-- The named values made by setting the names in order. -/
def setNames {α : Type} (entries : List (String × α)) : List (String × α) :=
  entries.foldl (fun set entry ↦ setName entry.1 entry.2 set) []

theorem lookup_setName {α : Type} (name : String) (value : α) (set : List (String × α)) :
    (setName name value set).lookup name = some value := by
  induction set with
  | nil => simp [setName]
  | cons entry rest ih =>
    obtain ⟨other, old⟩ := entry
    by_cases h : other = name
    · simp [setName, h]
    · have h' : (name == other) = false := by simpa using fun e ↦ h e.symm
      simp [setName, h, List.lookup_cons, h', ih]

theorem lookup_setName_of_ne {α : Type} {name other : String} (h : other ≠ name) (value : α)
    (set : List (String × α)) : (setName name value set).lookup other = set.lookup other := by
  have h' : (other == name) = false := by simpa using h
  induction set with
  | nil => simp [setName, List.lookup_cons, h']
  | cons entry rest ih =>
    obtain ⟨key, old⟩ := entry
    by_cases hk : key = name
    · simp [setName, hk, List.lookup_cons, h']
    · simp [setName, hk, List.lookup_cons, ih]

private theorem setName_of_notMem {α : Type} {name : String} (value : α) {set : List (String × α)}
    (h : name ∉ set.map Prod.fst) : setName name value set = set ++ [(name, value)] := by
  induction set with
  | nil => rfl
  | cons entry rest ih =>
    obtain ⟨other, old⟩ := entry
    rw [List.map_cons, List.mem_cons, not_or] at h
    rw [setName, if_neg (Ne.symm h.1), ih h.2, List.cons_append]

private theorem mem_setName {α : Type} {name : String} {value : α} {set : List (String × α)}
    {entry : String × α} (h : entry ∈ setName name value set) :
    entry = (name, value) ∨ entry ∈ set := by
  induction set with
  | nil => exact .inl (List.mem_singleton.mp h)
  | cons first rest ih =>
    rw [setName] at h
    split at h
    · next hname =>
      rcases List.mem_cons.mp h with rfl | hrest
      · exact .inl (by rw [hname])
      · exact .inr (List.mem_cons_of_mem _ hrest)
    · rcases List.mem_cons.mp h with rfl | hrest
      · exact .inr List.mem_cons_self
      · exact (ih hrest).imp_right (List.mem_cons_of_mem _)

/-- Setting names in order leaves no entry that was not set. -/
theorem mem_setNames {α : Type} {entries : List (String × α)} {entry : String × α}
    (h : entry ∈ setNames entries) : entry ∈ entries := by
  have key : ∀ entries set : List (String × α),
      entry ∈ entries.foldl (fun set entry ↦ setName entry.1 entry.2 set) set →
        entry ∈ set ∨ entry ∈ entries := by
    intro entries
    induction entries with
    | nil => exact fun set h ↦ .inl h
    | cons first rest ih =>
      intro set h
      rcases ih _ h with hset | hrest
      · rcases mem_setName hset with rfl | hold
        · exact .inr List.mem_cons_self
        · exact .inl hold
      · exact .inr (List.mem_cons_of_mem _ hrest)
  exact (key entries [] h).resolve_left List.not_mem_nil

private theorem setName_map {α β : Type} (f : α → β) (name : String) (value : α)
    (set : List (String × α)) :
    setName name (f value) (set.map fun entry ↦ (entry.1, f entry.2)) =
      (setName name value set).map fun entry ↦ (entry.1, f entry.2) := by
  induction set with
  | nil => rfl
  | cons entry rest ih =>
    rw [List.map_cons, setName, setName, ih]
    split <;> rfl

/-- Names are set in the same way whatever the values are. -/
theorem setNames_map {α β : Type} (f : α → β) (entries : List (String × α)) :
    setNames (entries.map fun entry ↦ (entry.1, f entry.2)) =
      (setNames entries).map fun entry ↦ (entry.1, f entry.2) := by
  have key : ∀ set : List (String × α),
      (entries.map fun entry ↦ (entry.1, f entry.2)).foldl
          (fun set entry ↦ setName entry.1 entry.2 set) (set.map fun entry ↦ (entry.1, f entry.2)) =
        (entries.foldl (fun set entry ↦ setName entry.1 entry.2 set) set).map
          fun entry ↦ (entry.1, f entry.2) := by
    induction entries with
    | nil => exact fun _ ↦ rfl
    | cons entry rest ih =>
      intro set
      rw [List.map_cons, List.foldl_cons, List.foldl_cons, ← ih, ← setName_map]
  exact key []

private theorem nodup_setName {α : Type} (name : String) (value : α) {set : List (String × α)}
    (h : (set.map Prod.fst).Nodup) : ((setName name value set).map Prod.fst).Nodup := by
  induction set with
  | nil => simp [setName]
  | cons entry rest ih =>
    rw [List.map_cons, List.nodup_cons] at h
    rw [setName]
    split
    · exact List.nodup_cons.mpr h
    · next hname =>
      refine List.nodup_cons.mpr ⟨?_, ih h.2⟩
      intro hmem
      obtain ⟨other, hother, heq⟩ := List.mem_map.mp hmem
      rcases mem_setName hother with rfl | hrest
      · exact hname heq.symm
      · exact h.1 (heq ▸ List.mem_map_of_mem hrest)

/-- Each name is set once. -/
theorem nodup_setNames {α : Type} (entries : List (String × α)) :
    ((setNames entries).map Prod.fst).Nodup := by
  have key : ∀ set : List (String × α), (set.map Prod.fst).Nodup →
      ((entries.foldl (fun set entry ↦ setName entry.1 entry.2 set) set).map Prod.fst).Nodup := by
    induction entries with
    | nil => exact fun _ h ↦ h
    | cons entry rest ih => exact fun set h ↦ ih _ (nodup_setName entry.1 entry.2 h)
  exact key [] List.nodup_nil

/-- Different names stay as they are. -/
theorem setNames_of_nodup {α : Type} {entries : List (String × α)}
    (h : (entries.map Prod.fst).Nodup) : setNames entries = entries := by
  -- What is set so far stands in front of what is not.
  have hset : ∀ set : List (String × α), ((set ++ entries).map Prod.fst).Nodup →
      entries.foldl (fun set entry ↦ setName entry.1 entry.2 set) set = set ++ entries := by
    clear h
    induction entries with
    | nil => simp
    | cons entry rest ih =>
      intro set h
      have hnew : entry.1 ∉ set.map Prod.fst := by
        rw [List.map_append, List.nodup_append] at h
        exact fun hmem ↦ h.2.2 _ hmem _ List.mem_cons_self rfl
      rw [List.foldl_cons, setName_of_notMem _ hnew, ih _ (by simpa using h)]
      simp
  exact hset [] h

end Runbook
