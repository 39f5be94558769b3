import Runbook.Proofs.AllocatedNames

/-!
# Slots that name variables

A block that writes a variable has a slot that names it. The author of a call may leave its slot
empty, and then a name is allocated for the function that is called. Slots are filled from the first
to the last (`Slot.fill`).

What is allocated for a slot depends on the slots up to it and on nothing else: the number in the
name says how many of them are for functions that are equal in capitals (`fill_allocated`). So
allocated names differ from each other. Nothing keeps an author from writing one of them.
-/

namespace Runbook

/-- How a slot is filled. -/
inductive Slot where
  /-- With a name that is allocated for the function of a call. -/
  | allocated (function : String)
  /-- With what the author wrote. -/
  | given (value : Value)

namespace Slot

/-- A name is allocated for the slot, under a prefix in capitals. -/
def isFor (key : String) : Slot → Bool
  | .allocated function => Text.upper function == key
  | .given _ => false

/-- The values in the slots, and the counters after their names have been allocated. -/
def fill : List Slot → Counters → List Value × Counters
  | [], counters => ([], counters)
  | .given value :: rest, counters => (value :: (fill rest counters).1, (fill rest counters).2)
  | .allocated function :: rest, counters =>
    let filled := fill rest (counters.allocate function).2
    (.staged ⟨(counters.allocate function).1, []⟩ :: filled.1, filled.2)

variable {slots front back : List Slot} {counters : Counters}

theorem fill_append {before between after : Counters} {first second : List Value}
    (hfront : fill front before = (first, between)) (hback : fill back between = (second, after)) :
    fill (front ++ back) before = (first ++ second, after) := by
  induction front generalizing before first with
  | nil =>
    obtain ⟨rfl, rfl⟩ := Prod.mk.inj hfront
    exact hback
  | cons slot rest ih =>
    cases slot with
    | given value =>
      obtain ⟨rfl, hbetween⟩ := Prod.mk.inj hfront
      rw [List.cons_append, fill, ih (Prod.ext rfl hbetween)]
      rfl
    | allocated function =>
      obtain ⟨rfl, hbetween⟩ := Prod.mk.inj hfront
      rw [List.cons_append, fill, ih (Prod.ext rfl hbetween)]
      rfl

/-- What authors wrote is kept. -/
theorem fill_map_given (values : List Value) (counters : Counters) :
    fill (values.map given) counters = (values, counters) := by
  induction values with
  | nil => rfl
  | cons value rest ih => rw [List.map_cons, fill, ih]

theorem length_fill (slots : List Slot) (counters : Counters) :
    (fill slots counters).1.length = slots.length := by
  induction slots generalizing counters with
  | nil => rfl
  | cons slot rest ih =>
    cases slot with
    | given value => exact congrArg Nat.succ (ih counters)
    | allocated function => exact congrArg Nat.succ (ih _)

theorem fill_given {i : Nat} {value : Value} (h : slots[i]? = some (.given value))
    (counters : Counters) : (fill slots counters).1[i]? = some value := by
  induction slots generalizing i counters with
  | nil => cases h
  | cons slot rest ih =>
    cases i with
    | zero =>
      obtain rfl : slot = .given value := Option.some.inj h
      rfl
    | succ i =>
      cases slot with
      | given _ => exact ih h counters
      | allocated _ => exact ih h _

/-- The name in a slot counts the slots up to it that are for the same prefix. -/
theorem fill_allocated {i : Nat} {function : String} (h : slots[i]? = some (.allocated function))
    (counters : Counters) :
    (fill slots counters).1[i]? = some (.staged ⟨numbered (Text.upper function)
      (counters.count (Text.upper function) +
        (slots.take (i + 1)).countP (isFor (Text.upper function))), []⟩) := by
  induction slots generalizing i counters with
  | nil => cases h
  | cons slot rest ih =>
    cases i with
    | zero =>
      obtain rfl : slot = .allocated function := Option.some.inj h
      have hself : isFor (Text.upper function) (.allocated function) = true := beq_self_eq_true _
      rw [List.take_succ_cons, List.take_zero, List.countP_cons_of_pos hself, List.countP_nil]
      rfl
    | succ i =>
      rw [List.take_succ_cons, List.countP_cons]
      cases slot with
      | given value => exact ih h counters
      | allocated other =>
        have hrest := ih h (counters.allocate other).2
        rw [Counters.count_allocate, Nat.add_assoc] at hrest
        rw [Nat.add_comm (List.countP _ _)]
        simpa [isFor, fill] using hrest

/-! ## Allocated names among the others -/

/-- The variable that the value at a position names. -/
def variableAt (values : List Value) (i : Nat) : Option String :=
  values[i]?.bind Value.variableName?

/-- Where a name was allocated, the variable differs from that of every other slot. -/
def KeepsApart (slots : List Slot) (values : List Value) : Prop :=
  ∀ i j function, slots[i]? = some (.allocated function) → i ≠ j →
    variableAt values i ≠ variableAt values j

/-- The name is one of those that a new build allocates for the slots. -/
def Allocates (slots : List Slot) (name : String) : Prop :=
  ∃ key number, name = numbered key number ∧ 0 < number ∧ number ≤ slots.countP (isFor key)

theorem not_allocates_numbered {key : String} {number : Nat}
    (h : slots.countP (isFor key) < number) : ¬Allocates slots (numbered key number) := by
  rintro ⟨other, reached, hname, -, hle⟩
  obtain ⟨rfl, rfl⟩ := numbered_inj.mp hname
  omega

private theorem variableAt_allocated {i : Nat} {function : String}
    (h : slots[i]? = some (.allocated function)) :
    variableAt (fill slots []).1 i = some (numbered (Text.upper function)
      ((slots.take (i + 1)).countP (isFor (Text.upper function)))) := by
  rw [variableAt, fill_allocated h, Counters.count, List.lookup_nil, Option.getD_none, Nat.zero_add]
  rfl

private theorem variableAt_given {j : Nat} {value : Value} (h : slots[j]? = some (.given value)) :
    variableAt (fill slots counters).1 j = value.variableName? := by
  rw [variableAt, fill_given h]
  rfl

private theorem countP_take_succ {p : Slot → Bool} {i : Nat} {slot : Slot}
    (hslot : slots[i]? = some slot) (hp : p slot = true) :
    (slots.take (i + 1)).countP p = (slots.take i).countP p + 1 := by
  rw [List.take_add_one, hslot, Option.toList_some, List.countP_append, List.countP_cons_of_pos hp,
    List.countP_nil]

/-- Every number up to the count is reached at some slot. -/
theorem exists_countP_take {p : Slot → Bool} {number : Nat} (hpos : 0 < number)
    (hle : number ≤ slots.countP p) :
    ∃ i slot, slots[i]? = some slot ∧ p slot = true ∧ (slots.take (i + 1)).countP p = number := by
  induction slots generalizing number with
  | nil => exact absurd hle (Nat.not_le.mpr hpos)
  | cons slot rest ih =>
    rw [List.countP_cons] at hle
    by_cases hslot : p slot = true
    · by_cases hone : number = 1
      · refine ⟨0, slot, rfl, hslot, ?_⟩
        rw [List.take_succ_cons, List.take_zero, List.countP_cons_of_pos hslot, hone]
        rfl
      · rw [if_pos hslot] at hle
        have hbefore : 0 < number - 1 := by omega
        obtain ⟨i, found, hfound, hp, hcount⟩ := ih hbefore (by omega)
        refine ⟨i + 1, found, hfound, hp, ?_⟩
        rw [List.take_succ_cons, List.countP_cons_of_pos hslot, hcount]
        omega
    · rw [if_neg hslot] at hle
      obtain ⟨i, found, hfound, hp, hcount⟩ := ih hpos hle
      refine ⟨i + 1, found, hfound, hp, ?_⟩
      rw [List.take_succ_cons, List.countP_cons_of_neg hslot, hcount]

private theorem eq_allocated_of_isFor {key : String} {slot : Slot} (h : isFor key slot = true) :
    ∃ function, slot = .allocated function ∧ Text.upper function = key := by
  cases slot with
  | given value => exact absurd h Bool.false_ne_true
  | allocated function => exact ⟨function, rfl, beq_iff_eq.mp h⟩

/-- Two slots never get the same allocated name. -/
theorem variableAt_ne_of_lt {i j : Nat} {first second : String} (hij : i < j)
    (hi : slots[i]? = some (.allocated first)) (hj : slots[j]? = some (.allocated second)) :
    variableAt (fill slots []).1 i ≠ variableAt (fill slots []).1 j := by
  rw [variableAt_allocated hi, variableAt_allocated hj]
  intro hname
  obtain ⟨hkey, hcount⟩ := numbered_inj.mp (Option.some.inj hname)
  rw [hkey] at hcount
  -- The slot further back is counted in addition to those up to the other one.
  have hself : isFor (Text.upper second) (.allocated second) = true := beq_self_eq_true _
  have hle : (slots.take (i + 1)).countP (isFor (Text.upper second)) ≤
      (slots.take j).countP (isFor (Text.upper second)) :=
    (List.take_sublist_take_left hij).countP_le
  have hsucc := countP_take_succ hj hself
  omega

/-- Allocated names are kept apart exactly if the author wrote none of them. -/
theorem keepsApart_fill_iff (slots : List Slot) :
    KeepsApart slots (fill slots []).1 ↔
      ∀ value, .given value ∈ slots → ∀ name ∈ value.variableName?, ¬Allocates slots name := by
  constructor
  · rintro hapart value hmem name hname ⟨key, number, rfl, hpos, hle⟩
    obtain ⟨j, hj⟩ := List.mem_iff_getElem?.mp hmem
    obtain ⟨i, slot, hi, hfor, hcount⟩ := exists_countP_take hpos hle
    obtain ⟨function, rfl, rfl⟩ := eq_allocated_of_isFor hfor
    have hij : i ≠ j := by
      rintro rfl
      rw [hi] at hj
      cases hj
    refine hapart i j function hi hij ?_
    rw [variableAt_allocated hi, variableAt_given hj, hcount, hname]
  · intro hauthor i j function hi hij heq
    cases hj : slots[j]? with
    | none =>
      have hnone : (fill slots []).1[j]? = none := by
        rw [List.getElem?_eq_none_iff, length_fill]
        exact List.getElem?_eq_none_iff.mp hj
      rw [variableAt_allocated hi, variableAt, hnone] at heq
      cases heq
    | some slot =>
      cases slot with
      | allocated other =>
        rcases Nat.lt_or_gt_of_ne hij with hlt | hgt
        · exact variableAt_ne_of_lt hlt hi hj heq
        · exact variableAt_ne_of_lt hgt hj hi heq.symm
      | given value =>
        rw [variableAt_allocated hi, variableAt_given hj] at heq
        have hself : isFor (Text.upper function) (.allocated function) = true :=
          beq_self_eq_true _
        refine hauthor value (List.mem_of_getElem? hj) _ heq.symm ⟨_, _, rfl, ?_, ?_⟩
        · rw [countP_take_succ hi hself]
          exact Nat.succ_pos _
        · exact (List.take_sublist _ _).countP_le

end Slot

end Runbook
