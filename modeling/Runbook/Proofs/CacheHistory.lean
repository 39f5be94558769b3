import Mathlib.Data.List.Dedup
import Runbook.Markdown.Emitter
import Runbook.Proofs.Caching
import Runbook.Staged.Request

/-!
# Caches over their whole history

A cache is asked again and again, and it is cleared from time to time. Its history since the last
clearing is the list of the lookups made since then. `Cache.Records` ties a cache to its history:
the entries are the lookups of the history, each once and with its expression; every entry was made
by a miss; and every lookup was a hit or a miss. One call keeps that, so it holds after any calls.

An emitter clears its cache before each document, and within a document it only asks. So neither
what it wrote before nor where an earlier document failed can be seen in what it writes.
-/

namespace Runbook

namespace Cache

/-! ## Calls on a cache -/

/-- A call on a cache. -/
inductive Call where
  /-- Asks for the expression of a staged value. -/
  | look (mode : Mode) (value : Staged)
  | clear
deriving DecidableEq, Repr

namespace Call

/-- The answer to a call, if it has one, and the cache after it. -/
def perform (tool : String) (cache : Cache) : Call → Option (Except RequestError String) × Cache
  | .look mode value =>
    let found := cache.request tool mode (.staged value)
    (some found.1, found.2)
  | .clear => (none, cache.clear)

/-- The answer that a call has without a cache. -/
def plainAnswer (tool : String) : Call → Option (Except RequestError String)
  | .look mode value => some (.ok (value.resolve tool mode))
  | .clear => none

/-- The history after a call. -/
def record (history : List Lookup) : Call → List Lookup
  | .look mode value => history ++ [⟨mode, value⟩]
  | .clear => []

end Call

/-- The answers to calls that are made one after the other, and the cache after them. -/
def performAll (tool : String) (cache : Cache) :
    List Call → List (Option (Except RequestError String)) × Cache
  | [] => ([], cache)
  | call :: rest =>
    let next := call.perform tool cache
    let run := next.2.performAll tool rest
    (next.1 :: run.1, run.2)

/-- The lookups since the last clearing. -/
def sinceClear (calls : List Call) : List Lookup := calls.foldl Call.record []

/-! ## Caches and their history -/

/-- What is in a cache after a history. -/
structure Records (tool : String) (history : List Lookup) (cache : Cache) : Prop where
  sound : cache.Sound tool
  nodup : (cache.entries.map Prod.fst).Nodup
  mem_iff : ∀ lookup, lookup ∈ cache.entries.map Prod.fst ↔ lookup ∈ history
  misses : cache.misses = cache.size
  total : cache.hits + cache.misses = history.length

variable {tool : String} {history : List Lookup} {cache : Cache}

private theorem records_empty (tool : String) : Records tool [] {} where
  sound := sound_empty tool
  nodup := List.nodup_nil
  mem_iff := fun _ ↦ Iff.rfl
  misses := rfl
  total := rfl

private theorem get?_eq_none_iff {lookup : Lookup} :
    cache.get? lookup = none ↔ lookup ∉ cache.entries.map Prod.fst := by
  rw [get?, List.lookup_eq_none_iff, List.mem_map]
  constructor
  · rintro h ⟨entry, hentry, rfl⟩
    simpa using h entry hentry
  · intro h entry hentry
    simpa using fun heq : lookup = entry.1 ↦ h ⟨entry, hentry, heq.symm⟩

theorem Records.find (h : cache.Records tool history) (lookup : Lookup) :
    (cache.find tool lookup).2.Records tool (history ++ [lookup]) := by
  have hsound := (h.sound.find lookup).2
  cases hget : cache.get? lookup with
  | some text =>
    -- A hit counts, and the lookup is in the history already.
    have hfind : (cache.find tool lookup).2 = { cache with hits := cache.hits + 1 } := by
      rw [Cache.find, hget]
    rw [hfind] at hsound ⊢
    have hmem : lookup ∈ cache.entries.map Prod.fst := by
      by_contra hnot
      rw [get?_eq_none_iff.mpr hnot] at hget
      cases hget
    refine ⟨hsound, h.nodup, fun other ↦ ?_, h.misses, ?_⟩
    · rw [List.mem_append, List.mem_singleton, ← h.mem_iff]
      constructor
      · exact .inl
      · rintro (hother | rfl)
        · exact hother
        · exact hmem
    · rw [List.length_append, List.length_singleton, ← h.total]
      exact Nat.add_right_comm cache.hits 1 cache.misses
  | none =>
    -- A miss makes one entry, for a lookup that had none.
    have hfind : (cache.find tool lookup).2 =
        { cache with
          entries := (lookup, lookup.resolve tool) :: cache.entries
          misses := cache.misses + 1 } := by
      rw [Cache.find, hget]
    rw [hfind] at hsound ⊢
    refine ⟨hsound, ?_, fun other ↦ ?_, ?_, ?_⟩
    · exact List.nodup_cons.mpr ⟨get?_eq_none_iff.mp hget, h.nodup⟩
    · rw [List.map_cons, List.mem_cons, List.mem_append, List.mem_singleton, h.mem_iff, or_comm]
    · rw [h.misses, size, size, List.length_cons]
    · rw [List.length_append, List.length_singleton, ← h.total]
      exact (Nat.add_assoc cache.hits cache.misses 1).symm

/-- The number of entries is that of the different lookups. -/
theorem Records.size_eq (h : cache.Records tool history) : cache.size = history.dedup.length := by
  have hperm : (cache.entries.map Prod.fst).Perm history.dedup := by
    rw [List.perm_ext_iff_of_nodup h.nodup (List.nodup_dedup history)]
    intro lookup
    rw [List.mem_dedup, h.mem_iff]
  rw [size, ← hperm.length_eq, List.length_map]

/-- One call keeps the tie, and answers as it would without the cache. -/
theorem Records.perform (h : cache.Records tool history) (call : Call) :
    (call.perform tool cache).1 = call.plainAnswer tool ∧
      (call.perform tool cache).2.Records tool (call.record history) := by
  cases call with
  | look mode value =>
    refine ⟨?_, h.find ⟨mode, value⟩⟩
    exact congrArg (fun text ↦ some (Except.ok text)) (h.sound.find ⟨mode, value⟩).1
  | clear => exact ⟨rfl, records_empty tool⟩

theorem Records.performAll (h : cache.Records tool history) (calls : List Call) :
    (cache.performAll tool calls).1 = calls.map (Call.plainAnswer tool) ∧
      (cache.performAll tool calls).2.Records tool (calls.foldl Call.record history) := by
  induction calls generalizing cache history with
  | nil => exact ⟨rfl, h⟩
  | cons call rest ih =>
    obtain ⟨hanswer, hnext⟩ := h.perform call
    obtain ⟨hanswers, hlast⟩ := ih hnext
    refine ⟨?_, hlast⟩
    rw [Cache.performAll, List.map_cons, hanswer, hanswers]

end Cache

/-! ## Emitters -/

namespace Emitter

/-- Writes documents one after the other. -/
def emitAll (emitter : Emitter) : List Document → List (Except EmitError String) × Emitter
  | [] => ([], emitter)
  | document :: rest =>
    let next := emitter.emit document
    let run := next.2.emitAll rest
    (next.1 :: run.1, run.2)

theorem emit_fst (emitter : Emitter) (document : Document) :
    (emitter.emit document).1 =
      (document.emit emitter.config).eval emitter.config.queryTool :=
  ((document.emit emitter.config).run_of_sound (Cache.sound_empty _)).1

private theorem emitAll_fst (emitter : Emitter) (documents : List Document) :
    (emitter.emitAll documents).1 =
      documents.map fun document ↦
        (document.emit emitter.config).eval emitter.config.queryTool := by
  induction documents generalizing emitter with
  | nil => rfl
  | cons document rest ih =>
    rw [emitAll, List.map_cons, emit_fst, ih]
    rfl

end Emitter

/-- **Caching is invisible.** Whatever an emitter wrote before, and however that ended, it writes
each document, or fails on it, as if every expression was made anew. And whatever is looked up in a
cache, with clearings in between, each answer is the one without the cache; the hits and misses
together are the lookups since the last clearing, and the misses and the entries are as many as
there are different ones among them. -/
theorem Cache.invisible (emitter : Emitter) (documents : List Document) (tool : String)
    (calls : List Cache.Call) :
    (emitter.emitAll documents).1 =
        (documents.map fun document ↦
          (document.emit emitter.config).eval emitter.config.queryTool) ∧
      let run := Cache.performAll tool {} calls
      run.1 = calls.map (Cache.Call.plainAnswer tool) ∧
        run.2.hits + run.2.misses = (Cache.sinceClear calls).length ∧
        run.2.misses = run.2.size ∧
        run.2.size = (Cache.sinceClear calls).dedup.length := by
  obtain ⟨hanswers, hrecords⟩ := (Cache.records_empty tool).performAll calls
  exact ⟨emitter.emitAll_fst documents, hanswers, hrecords.total, hrecords.misses,
    hrecords.size_eq⟩

end Runbook
