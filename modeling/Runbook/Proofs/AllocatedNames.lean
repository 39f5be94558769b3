import Runbook.Proofs.Resolution
import Runbook.Proofs.Surroundings

/-!
# Allocated names

An allocated name is a prefix in capitals, an underscore and a number. The number holds no
underscore, so the last underscore of the name divides it again, whatever the prefix ends in
(`numbered_inj`).

A name is taken if the counter of its prefix has reached its number. Allocating returns a name that
was not taken, and takes it. Whatever else happens to a build before its end never lowers a counter,
so a taken name stays taken.
-/

namespace Runbook

/-- The name with the given number for a prefix in capitals. -/
def numbered (key : String) (number : Nat) : String := key ++ "_" ++ toString number

/-- Prefix and number can be read off a name. -/
theorem numbered_inj {key other : String} {m n : Nat} :
    numbered key m = numbered other n ↔ key = other ∧ m = n := by
  constructor
  · intro h
    have hchars : (toString m).toList.reverse ++ '_' :: key.toList.reverse =
        (toString n).toList.reverse ++ '_' :: other.toList.reverse := by
      simpa [numbered] using congrArg (fun name ↦ name.toList.reverse) h
    -- From behind, the digits come first, and the underscore ends them.
    have hdigits : ∀ k : Nat, (toString k).toList.reverse.all isNumberChar = true := by
      intro k
      rw [List.all_reverse]
      exact all_isNumberChar_repr k
    obtain ⟨hnumber, hkey⟩ :=
      Text.append_inj_of_all (hdigits m) (hdigits n) (by rfl) (by rfl) hchars
    have hrepr : (m : Int).repr.toList = (n : Int).repr.toList := List.reverse_inj.mp hnumber
    have hkeys := List.reverse_inj.mp (List.tail_eq_of_cons_eq hkey)
    exact ⟨String.toList_inj.mp hkeys, Int.ofNat.inj (eq_of_repr_eq hrepr)⟩
  · rintro ⟨rfl, rfl⟩
    rfl

/-! ## Taken names -/

namespace Counters

variable {counters before after : Counters} {name : String}

private theorem allocate_name (stem : String) (counters : Counters) :
    (counters.allocate stem).1 =
      numbered (Text.upper stem) (counters.count (Text.upper stem) + 1) := rfl

theorem count_allocate (stem key : String) (counters : Counters) :
    (counters.allocate stem).2.count key =
      counters.count key + if Text.upper stem = key then 1 else 0 := by
  by_cases hkey : Text.upper stem = key
  · subst hkey
    rw [if_pos rfl, count, allocate, lookup_setName, Option.getD_some, count]
  · rw [if_neg hkey, count, allocate, lookup_setName_of_ne (Ne.symm hkey), count, Nat.add_zero]

/-- The counter of the name's prefix has reached its number. -/
def Taken (counters : Counters) (name : String) : Prop :=
  ∃ key number, name = numbered key number ∧ 0 < number ∧ number ≤ counters.count key

theorem Taken.mono (h : counters.Taken name) (hle : ∀ key, counters.count key ≤ after.count key) :
    after.Taken name := by
  obtain ⟨key, number, hname, hpos, hcount⟩ := h
  exact ⟨key, number, hname, hpos, hcount.trans (hle key)⟩

private theorem not_taken_allocate (stem : String) (counters : Counters) :
    ¬counters.Taken (counters.allocate stem).1 := by
  rintro ⟨key, number, hname, -, hcount⟩
  rw [allocate_name, numbered_inj] at hname
  obtain ⟨rfl, rfl⟩ := hname
  omega

private theorem taken_allocate (stem : String) (counters : Counters) :
    (counters.allocate stem).2.Taken (counters.allocate stem).1 := by
  refine ⟨Text.upper stem, _, allocate_name stem counters, Nat.succ_pos _, ?_⟩
  rw [count_allocate, if_pos rfl]

end Counters

/-! ## What happens to a build -/

namespace Context

/-- What can be asked of a build. -/
inductive Operation where
  | allocate (stem : String)
  /-- Allocates a name and makes it a staged variable. -/
  | allocateRoot (stem : String)
  | register (registration : Registration)
  /-- Lowers a tree, which may allocate names of its own and may fail. -/
  | lower (root : Value)
  | close

namespace Operation

/-- The name that is returned, if the operation returns one, and the context after it. -/
def perform : Operation → Context → Option String × Context
  | .allocate stem, context => ((context.allocate stem).1, (context.allocate stem).2)
  | .allocateRoot stem, context =>
    ((context.allocateRoot stem).1.root, (context.allocateRoot stem).2)
  | .register registration, context =>
    match context.registry.register registration with
    | .ok (_, registry) => (none, { context with registry })
    | .error _ => (none, context)
  | .lower root, context =>
    (none, { context with
      counters := ((lowerTree context.registry root).run.run context.counters).2 })
  | .close, context => (none, context.close)

/-- The operation is to return a name. -/
def allocates : Operation → Bool
  | .allocate _ | .allocateRoot _ => true
  | _ => false

variable {operation : Operation} {context : Context}

private theorem isSome_perform (operation : Operation) (context : Context) :
    (operation.perform context).1.isSome = operation.allocates := by
  cases operation with
  | register registration =>
    rw [perform]
    split <;> rfl
  | _ => rfl

/-- Before the end of a build no counter is lowered. -/
theorem count_le_perform (h : operation ≠ .close) (context : Context) (key : String) :
    context.counters.count key ≤ (operation.perform context).2.counters.count key := by
  cases operation with
  | allocate stem | allocateRoot stem => exact Counters.count_le_allocate stem key _
  | register registration =>
    rw [perform]
    split <;> exact Nat.le_refl _
  | lower root =>
    obtain ⟨stems, hstems⟩ := allocates_lowerTree context.registry root context.counters
    change _ ≤ Counters.count ((lowerTree context.registry root).run.run context.counters).2 key
    rw [hstems]
    exact Counters.count_le_allocateAll stems key _
  | close => exact absurd rfl h

/-- A name that is returned was not taken before and is taken afterwards. -/
theorem taken_perform {name : String} (h : name ∈ (operation.perform context).1) :
    ¬context.counters.Taken name ∧ (operation.perform context).2.counters.Taken name := by
  cases operation with
  | allocate stem | allocateRoot stem =>
    obtain rfl : (context.counters.allocate stem).1 = name := Option.some.inj h
    exact ⟨Counters.not_taken_allocate stem _, Counters.taken_allocate stem _⟩
  | register registration =>
    rw [perform] at h
    split at h <;> cases h
  | lower root | close => cases h

end Operation

/-- The names that operations return, one after the other. -/
def names (context : Context) : List Operation → List String
  | [] => []
  | operation :: rest =>
    (operation.perform context).1.toList ++ (operation.perform context).2.names rest

private theorem not_taken_of_mem_names {operations : List Operation} (h : .close ∉ operations)
    (context : Context) {name : String} (hname : name ∈ context.names operations) :
    ¬context.counters.Taken name := by
  induction operations generalizing context with
  | nil => exact absurd hname List.not_mem_nil
  | cons operation rest ih =>
    rw [List.mem_cons, not_or] at h
    rw [names, List.mem_append, Option.mem_toList] at hname
    rcases hname with hfirst | hrest
    · exact (Operation.taken_perform hfirst).1
    · intro htaken
      exact ih h.2 _ hrest (htaken.mono (Operation.count_le_perform (Ne.symm h.1) context))

/-- **A build allocates no name twice.** Whatever has happened to the build before, and whatever
functions it registers and trees it lowers in between, every allocation until the build ends returns
a name, and these names are pairwise distinct. -/
theorem nodup_names (context : Context) (operations : List Operation) (h : .close ∉ operations) :
    (context.names operations).length = operations.countP Operation.allocates ∧
      (context.names operations).Nodup := by
  induction operations generalizing context with
  | nil => exact ⟨rfl, List.nodup_nil⟩
  | cons operation rest ih =>
    rw [List.mem_cons, not_or] at h
    obtain ⟨hlength, hnodup⟩ := ih (operation.perform context).2 h.2
    have hreturned := operation.isSome_perform context
    rw [names]
    cases hname : (operation.perform context).1 with
    | none =>
      rw [hname] at hreturned
      rw [List.countP_cons_of_neg (by simp [← hreturned])]
      exact ⟨hlength, hnodup⟩
    | some name =>
      rw [hname] at hreturned
      rw [List.countP_cons_of_pos hreturned.symm]
      refine ⟨congrArg Nat.succ hlength, List.nodup_cons.mpr ⟨?_, hnodup⟩⟩
      intro hagain
      exact not_taken_of_mem_names h.2 _ hagain (Operation.taken_perform hname).2

/-- Prefixes that are equal in capitals, prefixes that end in an underscore or a number, and between
them a tree whose call takes `A_3`. -/
theorem nodup_names_capitals :
    let context := Context.create "unit" {} "doc"
    let registration : Registration := ⟨"a", none, .callable
      { name := some "a", parameters := [⟨"args", .positional, .missing, none⟩],
        source := .definition ["return args"], code := some { names := .node [] [] } }⟩
    let operations : List Operation := [.allocate "a", .allocateRoot "A", .register registration,
      .lower (.element "Call" [("fn", .text "a")] []), .allocate "a", .allocate "a_1",
      .allocateRoot "a_", .allocateRoot "ß", .allocate "ss"]
    .close ∉ operations ∧
      context.names operations =
        ["A_1", "A_2", "A_4", "A_1_1", "A__1", "SS_1", "SS_2"] ∧
      (context.names operations).length = 7 ∧ (context.names operations).Nodup := by
  intro context registration operations
  have hclose : .close ∉ operations := by simp [operations]
  obtain ⟨hlength, hnodup⟩ := nodup_names context operations hclose
  exact ⟨hclose, by decide +kernel, hlength, hnodup⟩

-- A build that has ended counts anew.
example : (Context.create "unit" {} "doc").names [.allocate "a", .close, .allocate "a"] =
    ["A_1", "A_1"] := by decide +kernel

end Context

end Runbook
