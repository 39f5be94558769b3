import Runbook.Emission

/-!
# Sound caches

A cache is only a shortcut if each of its entries holds what its lookup would yield without it. The
empty cache is sound and every lookup keeps it so. With a sound cache an emission ends as it does
without one.
-/

namespace Runbook

namespace Cache

variable {tool : String} {cache : Cache}

/-- Every entry holds the expression that its lookup yields. -/
def Sound (tool : String) (cache : Cache) : Prop :=
  ∀ entry ∈ cache.entries, entry.2 = entry.1.resolve tool

theorem sound_empty (tool : String) : Sound tool {} := fun _ h ↦ absurd h List.not_mem_nil

theorem Sound.get? (h : cache.Sound tool) {lookup : Lookup} {text : String}
    (hget : cache.get? lookup = some text) : text = lookup.resolve tool := by
  rw [Cache.get?] at hget
  obtain ⟨before, after, hentries, -⟩ := List.lookup_eq_some_iff.mp hget
  exact h (lookup, text) (by rw [hentries]; simp)

theorem Sound.find (h : cache.Sound tool) (lookup : Lookup) :
    (cache.find tool lookup).1 = lookup.resolve tool ∧ (cache.find tool lookup).2.Sound tool := by
  rw [Cache.find]
  split
  · next text hget => exact ⟨h.get? hget, h⟩
  · refine ⟨rfl, fun entry hentry ↦ ?_⟩
    rcases List.mem_cons.mp hentry with rfl | hold
    · rfl
    · exact h entry hold

end Cache

@[simp]
theorem Emission.eval_bind {α β : Type} (tool : String) (emission : Emission α)
    (f : α → Emission β) :
    (emission >>= f).eval tool = (emission.eval tool).bind fun value ↦ (f value).eval tool := by
  induction emission with
  | done value => rfl
  | fail error => rfl
  | ask lookup next ih => exact ih _

theorem Emission.run_of_sound {α : Type} {tool : String} (emission : Emission α) {cache : Cache}
    (h : cache.Sound tool) :
    (emission.run tool cache).1 = emission.eval tool ∧ (emission.run tool cache).2.Sound tool := by
  induction emission generalizing cache with
  | done value => exact ⟨rfl, h⟩
  | fail error => exact ⟨rfl, h⟩
  | ask lookup next ih =>
    obtain ⟨htext, hsound⟩ := h.find lookup
    rw [run, eval, ← htext]
    exact ih _ hsound

end Runbook
