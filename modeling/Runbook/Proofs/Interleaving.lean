import Mathlib.Algebra.BigOperators.Group.Finset.Basic
import Mathlib.Data.List.Forall2
import Mathlib.Logic.Function.Basic
import Runbook.Build.Batch
import Runbook.Proofs.Process

/-!
# Interleaved builds

The units of a batch are compiled by some workers at the same time. Their builds are cut into steps,
and the steps of different builds may follow each other in any order. All builds share one memory. A
step reads and writes the context of its unit and the scope of its worker there, so it matters that
no worker has two units at a time (`Pool.Consistent`).

The invariant says of every unit that its remaining steps, run from the memory as it is, end with
what the unit gives alone. Whoever takes a unit compiles it in a new context and a new scope, so
what the worker did before has no part in it. Since every step does a part of a fixed amount of work
(`Pool.totalWork_step`), all schedules end, and all after the same number of steps.
-/

namespace Runbook

/-! ## Jobs -/

/-- A unit of a batch, with its source cut into steps. -/
structure Job (ε : Type) where
  name : String
  source : Source ε
  program : Process ε Tree
  run_program : program.run = source.produce

namespace Job

variable {ε : Type}

def unit (job : Job ε) : String × Source ε := (job.name, job.source)

/-- Compiles the unit and closes its context, however the compilation ends. -/
def process (job : Job ε) : Process ε Compilation :=
  job.program.compile.always fun state ↦ { state with context := state.context.close }

/-- The state in which the unit is compiled. -/
def initial (job : Job ε) (unitId : String) (config : Config) (scope : Scope) : BuildState :=
  { context := .create unitId config job.name, scope }

/-- What the unit gives if it is compiled alone. -/
def alone (job : Job ε) (unitId : String) (config : Config) :
    Except (BuildError ε) Compilation :=
  (compileAlone unitId config job.name job.source).1

private theorem run_process (job : Job ε) (unitId : String) (config : Config) (scope : Scope) :
    job.process.run (job.initial unitId config scope) =
      compileAlone unitId config job.name job.source scope := by
  rw [process, Process.run_always, Process.run_compile job.run_program]
  rfl

/-- A unit is compiled in a scope of its own, so the scope outside does not matter. -/
theorem fst_compileAlone (job : Job ε) (unitId : String) (config : Config) (scope : Scope) :
    (compileAlone unitId config job.name job.source scope).1 = job.alone unitId config := rfl

/-- The number of steps of a unit. -/
def size (job : Job ε) (unitId : String) (config : Config) : Nat :=
  job.process.stepsFrom (job.initial unitId config {})

private theorem stepsFrom_process (job : Job ε) (unitId : String) (config : Config)
    (scope : Scope) :
    job.process.stepsFrom (job.initial unitId config scope) = job.size unitId config := by
  have hcompile : ∀ outer, job.program.compile.stepsFrom (job.initial unitId config outer) =
      job.program.stages.stepsFrom (job.initial unitId config
        ⟨some unitId, some (Context.nameOr job.name), none⟩) + 3 :=
    fun outer ↦ congrArg (· + 2) (Process.stepsFrom_always _ _ _)
  rw [size, process, Process.stepsFrom_always, Process.stepsFrom_always, hcompile, hcompile]

end Job

/-! ## Results -/

/-- What a list of results comes to: all the values, or the first failure. -/
inductive IsOutcome {δ α : Type} : List (Except δ α) → Except δ (List α) → Prop
  | values (values : List α) : IsOutcome (values.map .ok) (.ok values)
  | failure (values : List α) (error : δ) (rest : List (Except δ α)) :
      IsOutcome (values.map .ok ++ .error error :: rest) (.error error)

namespace IsOutcome

variable {δ α β : Type}

theorem cons {results : List (Except δ α)} {outcome : Except δ (List α)}
    (h : IsOutcome results outcome) (value : α) :
    IsOutcome (.ok value :: results) (outcome.map (value :: ·)) := by
  cases h with
  | values values => exact .values (value :: values)
  | failure values error rest => exact .failure (value :: values) error rest

private theorem mapM_values_append (values : List α) (rest : List (Except δ α)) :
    (values.map Except.ok ++ rest).mapM id = (rest.mapM id).map (values ++ ·) := by
  induction values with
  | nil =>
    rw [List.map_nil, List.nil_append]
    cases rest.mapM id <;> rfl
  | cons value others ih =>
    rw [List.map_cons, List.cons_append, List.mapM_cons, ih]
    cases rest.mapM id <;> rfl

/-- Actions that run one after the other give what their results come to. -/
theorem mapM_eq {f : β → Except δ α} {items : List β} {outcome : Except δ (List α)}
    (h : IsOutcome (items.map f) outcome) : items.mapM f = outcome := by
  have hmap : (items.map f).mapM id = items.mapM f := by
    rw [List.mapM_map]
    rfl
  rw [← hmap]
  generalize items.map f = results at h ⊢
  cases h with
  | values values =>
    rw [← List.append_nil (values.map Except.ok), mapM_values_append]
    exact congrArg Except.ok (List.append_nil values)
  | failure values error rest =>
    rw [mapM_values_append, List.mapM_cons]
    rfl

end IsOutcome

/-! ## Pools -/

/-- A batch whose units are compiled by some workers. -/
structure Workload (ε : Type) where
  config : Config
  /-- The id of every unit. -/
  unitId : Nat → String
  jobs : List (Job ε)
  workers : Nat
  workers_pos : 0 < workers

namespace Workload

variable {ε : Type}

/-- What the units give if they are compiled alone, in their order. Each keeps its id, since a
source may look at it. -/
def alone (load : Workload ε) : List (Except (BuildError ε) Compilation) :=
  load.jobs.zipIdx.map fun (job, unit) ↦ job.alone (load.unitId unit) load.config

private theorem alone_eq (load : Workload ε) (h : ∀ unit, load.unitId unit = toString unit) :
    load.alone = (load.jobs.map Job.unit).zipIdx.map fun ((name, source), index) ↦
      (compileAlone (toString index) load.config name source).1 := by
  rw [alone, List.zipIdx_map, List.map_map]
  refine List.map_congr_left fun place _ ↦ ?_
  simp only [Job.alone, h]
  rfl

/-- The number of steps of a unit: it is taken, it makes its own steps, and its result is handed
in. -/
def unitSize (load : Workload ε) (unit : Nat) : Nat :=
  (load.jobs[unit]?.map fun job ↦ job.size (load.unitId unit) load.config + 2).getD 0

private theorem unitSize_of_job {load : Workload ε} {unit : Nat} {job : Job ε}
    (h : load.jobs[unit]? = some job) :
    load.unitSize unit = job.size (load.unitId unit) load.config + 2 := by
  rw [unitSize, h]
  rfl

/-- The number of steps of all units. -/
def size (load : Workload ε) : Nat := ∑ unit ∈ Finset.range load.jobs.length, load.unitSize unit

end Workload

/-- How far the compilation of a unit is. -/
inductive Phase (ε : Type) where
  | waiting
  | running (worker : Nat) (rest : Process ε Compilation)
  | finished (result : Except (BuildError ε) Compilation)

namespace Phase

variable {ε : Type}

/-- What has been collected when the results are awaited in their order: nothing as long as a unit
is awaited, and all results or the first failure in the end. -/
def collect? : List (Phase ε) → Option (Except (BuildError ε) (List Compilation))
  | [] => some (.ok [])
  | .finished (.ok result) :: rest => (collect? rest).map (Except.map (result :: ·))
  | .finished (.error error) :: _ => some (.error error)
  | _ :: _ => none

/-- Results that are known only in part decide about what is collected. -/
theorem isOutcome_of_collect? {phases : List (Phase ε)}
    {results : List (Except (BuildError ε) Compilation)}
    (h : List.Forall₂ (fun phase result ↦ ∀ given, phase = .finished given → given = result) phases
      results) {outcome : Except (BuildError ε) (List Compilation)}
    (hcollect : collect? phases = some outcome) : IsOutcome results outcome := by
  induction h generalizing outcome with
  | nil =>
    cases hcollect
    exact .values []
  | @cons phase result phases results hfirst hrest ih =>
    cases phase with
    | waiting => cases hcollect
    | running worker rest => cases hcollect
    | finished given =>
      obtain rfl := hfirst given rfl
      cases given with
      | error error =>
        cases hcollect
        exact .failure [] error results
      | ok value =>
        obtain ⟨others, hothers, rfl⟩ := Option.map_eq_some_iff.mp hcollect
        exact (ih hothers).cons value

private theorem isSome_collect? {phases : List (Phase ε)}
    (h : ∀ phase ∈ phases, ∃ result, phase = .finished result) : (collect? phases).isSome := by
  induction phases with
  | nil => rfl
  | cons phase rest ih =>
    obtain ⟨⟨result, rfl⟩, hrest⟩ := List.forall_mem_cons.mp h
    cases result with
    | error error => rfl
    | ok value =>
      rw [collect?, Option.isSome_map]
      exact ih hrest

end Phase

/-- The memory that all builds share. Every unit has a context and its part of the log, and every
worker has a scope. -/
structure Pool (ε : Type) where
  phase : Nat → Phase ε
  context : Nat → Context
  records : Nat → List LogRecord
  scope : Nat → Scope

namespace Pool

variable {ε : Type} {load : Workload ε} {pool next : Pool ε} {unit other worker : Nat}

/-- The state of a unit's build on a worker. -/
def state (pool : Pool ε) (unit worker : Nat) : BuildState :=
  ⟨pool.context unit, pool.scope worker, pool.records unit⟩

/-- Writes back the state of a unit's build on a worker. -/
def put (pool : Pool ε) (unit worker : Nat) (state : BuildState) (phase : Phase ε) : Pool ε where
  phase := Function.update pool.phase unit phase
  context := Function.update pool.context unit state.context
  records := Function.update pool.records unit state.records
  scope := Function.update pool.scope worker state.scope

@[simp]
theorem phase_put_self (pool : Pool ε) (unit worker : Nat) (state : BuildState) (phase : Phase ε) :
    (pool.put unit worker state phase).phase unit = phase :=
  Function.update_self ..

private theorem phase_put_of_ne (h : other ≠ unit) (state : BuildState) (phase : Phase ε) :
    (pool.put unit worker state phase).phase other = pool.phase other :=
  Function.update_of_ne h ..

@[simp]
theorem state_put_self (pool : Pool ε) (unit worker : Nat) (state : BuildState) (phase : Phase ε) :
    (pool.put unit worker state phase).state unit worker = state := by
  simp [put, Pool.state]

private theorem state_put_of_ne {otherWorker : Nat} (hunit : other ≠ unit)
    (hworker : otherWorker ≠ worker) (state : BuildState) (phase : Phase ε) :
    (pool.put unit worker state phase).state other otherWorker = pool.state other otherWorker := by
  simp [put, Pool.state, hunit, hworker]

/-- What may happen next in a pool. -/
inductive Step (load : Workload ε) (pool : Pool ε) : Pool ε → Prop
  /-- A worker that has nothing to do takes a unit and makes a context for it. -/
  | take {unit worker : Nat} {job : Job ε} (hjob : load.jobs[unit]? = some job)
      (hphase : pool.phase unit = .waiting) (hworker : worker < load.workers)
      (hidle : ∀ other rest, pool.phase other ≠ .running worker rest) :
      Step load pool (pool.put unit worker
        (job.initial (load.unitId unit) load.config (pool.scope worker))
        (.running worker job.process))
  /-- A worker makes the next step of its unit. -/
  | advance {unit worker : Nat} {advance : BuildState → BuildState}
      {next : BuildState → Process ε Compilation}
      (hphase : pool.phase unit = .running worker (.step advance next)) :
      Step load pool (pool.put unit worker (advance (pool.state unit worker))
        (.running worker (next (pool.state unit worker))))
  /-- A worker hands in the result of its unit. -/
  | finish {unit worker : Nat} {result : Except (BuildError ε) Compilation}
      (hphase : pool.phase unit = .running worker (.ended result)) :
      Step load pool (pool.put unit worker (pool.state unit worker) (.finished result))

/-- A sequence of steps, and how many they are. -/
inductive Schedule (load : Workload ε) (first : Pool ε) : Nat → Pool ε → Prop
  | start : Schedule load first 0 first
  | step {count : Nat} {pool next : Pool ε} (h : Schedule load first count pool)
      (hstep : Step load pool next) : Schedule load first (count + 1) next

/-! ### The invariant -/

/-- The unit will give, or has given, what it gives alone. -/
def Fits (load : Workload ε) (pool : Pool ε) (unit : Nat) : Phase ε → Prop
  | .waiting => True
  | .running worker rest => ∃ job, load.jobs[unit]? = some job ∧
      (rest.run (pool.state unit worker)).1 = job.alone (load.unitId unit) load.config
  | .finished result => ∃ job, load.jobs[unit]? = some job ∧
      result = job.alone (load.unitId unit) load.config

/-- No worker has two units, and every unit fits. -/
structure Consistent (load : Workload ε) (pool : Pool ε) : Prop where
  exclusive : ∀ {unit other worker rest others}, pool.phase unit = .running worker rest →
    pool.phase other = .running worker others → unit = other
  fits : ∀ unit, Fits load pool unit (pool.phase unit)

/-- The number of steps of a unit that are still to be made. -/
def work (load : Workload ε) (pool : Pool ε) (unit : Nat) : Nat :=
  match pool.phase unit with
  | .waiting => load.unitSize unit
  | .running worker rest => rest.stepsFrom (pool.state unit worker) + 1
  | .finished _ => 0

private theorem work_of_waiting (h : pool.phase unit = .waiting) :
    pool.work load unit = load.unitSize unit := by
  rw [work, h]

private theorem work_of_running {rest : Process ε Compilation}
    (h : pool.phase unit = .running worker rest) :
    pool.work load unit = rest.stepsFrom (pool.state unit worker) + 1 := by
  rw [work, h]

private theorem work_of_finished {result : Except (BuildError ε) Compilation}
    (h : pool.phase unit = .finished result) : pool.work load unit = 0 := by
  rw [work, h]

/-- What one step does: it writes the state of one unit, whose worker has no other unit. The unit
fits afterwards, and has one step less to make. -/
theorem Step.exists_put (hpool : Consistent load pool) (h : Step load pool next) :
    ∃ unit worker state phase, next = pool.put unit worker state phase ∧
      unit < load.jobs.length ∧
      (∀ other rest, pool.phase other = .running worker rest → other = unit) ∧
      (∀ other rest, phase = .running other rest → other = worker) ∧
      Fits load next unit phase ∧ next.work load unit + 1 = pool.work load unit := by
  cases h with
  | @take unit worker job hjob hphase hworker hidle =>
    refine ⟨unit, worker, _, _, rfl, (List.getElem?_eq_some_iff.mp hjob).1, ?_, ?_, ?_, ?_⟩
    · exact fun other rest hother ↦ absurd hother (hidle other rest)
    · rintro other rest ⟨⟩
      rfl
    · refine ⟨job, hjob, ?_⟩
      rw [state_put_self, Job.run_process, Job.fst_compileAlone]
    · rw [work_of_running (phase_put_self ..), state_put_self, Job.stepsFrom_process,
        work_of_waiting hphase, Workload.unitSize_of_job hjob]
  | @advance unit worker advance next hphase =>
    have hfits := hpool.fits unit
    rw [hphase] at hfits
    obtain ⟨job, hjob, hrun⟩ := hfits
    refine ⟨unit, worker, _, _, rfl, (List.getElem?_eq_some_iff.mp hjob).1, ?_, ?_, ?_, ?_⟩
    · exact fun other rest hother ↦ hpool.exclusive hother hphase
    · rintro other rest ⟨⟩
      rfl
    · refine ⟨job, hjob, ?_⟩
      rw [state_put_self]
      exact hrun
    · rw [work_of_running (phase_put_self ..), state_put_self, work_of_running hphase]
      rfl
  | @finish unit worker result hphase =>
    have hfits := hpool.fits unit
    rw [hphase] at hfits
    obtain ⟨job, hjob, hrun⟩ := hfits
    refine ⟨unit, worker, _, _, rfl, (List.getElem?_eq_some_iff.mp hjob).1, ?_, ?_, ?_, ?_⟩
    · exact fun other rest hother ↦ hpool.exclusive hother hphase
    · rintro other rest ⟨⟩
    · exact ⟨job, hjob, hrun⟩
    · rw [work_of_finished (phase_put_self ..), work_of_running hphase]
      rfl

/-- Units on other workers do not notice a step. -/
theorem state_put_of_running {state : BuildState} {phase : Phase ε} {otherWorker : Nat}
    {rest : Process ε Compilation}
    (hfree : ∀ other rest, pool.phase other = .running worker rest → other = unit)
    (hother : other ≠ unit) (hphase : pool.phase other = .running otherWorker rest) :
    (pool.put unit worker state phase).state other otherWorker = pool.state other otherWorker := by
  apply state_put_of_ne hother
  rintro rfl
  exact hother (hfree other rest hphase)

theorem Consistent.step (hpool : Consistent load pool) (h : Step load pool next) :
    Consistent load next := by
  obtain ⟨unit, worker, state, phase, rfl, -, hfree, hself, hfits, -⟩ := h.exists_put hpool
  constructor
  · intro first second shared rest others hfirst hsecond
    -- The unit of the step is alone on its worker, and the others are where they were.
    by_cases hone : first = unit <;> by_cases htwo : second = unit
    · rw [hone, htwo]
    · rw [hone, phase_put_self] at hfirst
      rw [phase_put_of_ne htwo, hself _ _ hfirst] at hsecond
      exact absurd (hfree _ _ hsecond) htwo
    · rw [htwo, phase_put_self] at hsecond
      rw [phase_put_of_ne hone, hself _ _ hsecond] at hfirst
      exact absurd (hfree _ _ hfirst) hone
    · rw [phase_put_of_ne hone] at hfirst
      rw [phase_put_of_ne htwo] at hsecond
      exact hpool.exclusive hfirst hsecond
  · intro other
    by_cases hother : other = unit
    · rw [hother, phase_put_self]
      exact hfits
    · have hold := hpool.fits other
      rw [phase_put_of_ne hother]
      cases hphase : pool.phase other with
      | waiting => exact trivial
      | finished result =>
        rw [hphase] at hold
        exact hold
      | running otherWorker rest =>
        rw [hphase] at hold
        rw [Fits, state_put_of_running hfree hother hphase]
        exact hold

/-- The number of steps of all units that are still to be made. -/
def totalWork (load : Workload ε) (pool : Pool ε) : Nat :=
  ∑ unit ∈ Finset.range load.jobs.length, pool.work load unit

private theorem work_put_of_ne {state : BuildState} {phase : Phase ε}
    (hfree : ∀ other rest, pool.phase other = .running worker rest → other = unit)
    (hother : other ≠ unit) :
    (pool.put unit worker state phase).work load other = pool.work load other := by
  have hsame : (pool.put unit worker state phase).phase other = pool.phase other :=
    phase_put_of_ne hother state phase
  cases hphase : pool.phase other with
  | waiting => rw [work_of_waiting hphase, work_of_waiting (hsame.trans hphase)]
  | finished result => rw [work_of_finished hphase, work_of_finished (hsame.trans hphase)]
  | running otherWorker rest =>
    rw [work_of_running hphase, work_of_running (hsame.trans hphase),
      state_put_of_running hfree hother hphase]

private theorem totalWork_step (hpool : Consistent load pool) (h : Step load pool next) :
    next.totalWork load + 1 = pool.totalWork load := by
  obtain ⟨unit, worker, state, phase, rfl, hunit, hfree, -, -, hwork⟩ := h.exists_put hpool
  have hmem := Finset.mem_range.mpr hunit
  have hothers : ∑ other ∈ (Finset.range load.jobs.length).erase unit,
        (pool.put unit worker state phase).work load other =
      ∑ other ∈ (Finset.range load.jobs.length).erase unit, pool.work load other :=
    Finset.sum_congr rfl fun other hother ↦
      work_put_of_ne hfree (Finset.ne_of_mem_erase hother)
  have hbefore := Finset.add_sum_erase _ (fun other ↦ pool.work load other) hmem
  have hafter :=
    Finset.add_sum_erase _ (fun other ↦ (pool.put unit worker state phase).work load other) hmem
  rw [totalWork, totalWork]
  omega

/-- Nobody has taken a unit yet. -/
def IsFresh (pool : Pool ε) : Prop := ∀ unit, pool.phase unit = .waiting

theorem IsFresh.consistent (h : pool.IsFresh) : Consistent load pool where
  exclusive := by
    intro unit other worker rest others hunit
    rw [h unit] at hunit
    cases hunit
  fits := by
    intro unit
    rw [h unit]
    exact trivial

theorem Schedule.consistent {first : Pool ε} {count : Nat} (hfirst : first.IsFresh)
    (h : Schedule load first count pool) : Consistent load pool := by
  induction h with
  | start => exact hfirst.consistent
  | step _ hstep ih => exact ih.step hstep

private theorem Schedule.totalWork_add {first : Pool ε} {count : Nat} (hfirst : first.IsFresh)
    (h : Schedule load first count pool) :
    pool.totalWork load + count = first.totalWork load := by
  induction h with
  | start => rfl
  | step hschedule hstep ih =>
    have hwork := totalWork_step (hschedule.consistent hfirst) hstep
    omega

/-! ### Collecting the results -/

/-- What has been collected of the results of the units. -/
def collected? (load : Workload ε) (pool : Pool ε) :
    Option (Except (BuildError ε) (List Compilation)) :=
  Phase.collect? (load.jobs.zipIdx.map fun place ↦ pool.phase place.2)

private theorem Consistent.isOutcome (h : Consistent load pool)
    {outcome : Except (BuildError ε) (List Compilation)}
    (hcollected : pool.collected? load = some outcome) : IsOutcome load.alone outcome := by
  refine Phase.isOutcome_of_collect? ?_ hcollected
  refine List.forall₂_map_left_iff.mpr (List.forall₂_map_right_iff.mpr (List.forall₂_same.mpr ?_))
  rintro ⟨job, unit⟩ hmem given hgiven
  have hfits := h.fits unit
  rw [hgiven] at hfits
  obtain ⟨other, hother, rfl⟩ := hfits
  rw [List.mk_mem_zipIdx_iff_getElem?.mp hmem] at hother
  cases hother
  rfl

/-- As long as there is work, somebody can go on with it. -/
theorem exists_step (h : pool.totalWork load ≠ 0) : ∃ next, Step load pool next := by
  by_cases hbusy : ∃ unit worker rest, pool.phase unit = .running worker rest
  · obtain ⟨unit, worker, rest, hphase⟩ := hbusy
    cases rest with
    | ended result => exact ⟨_, .finish hphase⟩
    | step advance next => exact ⟨_, .advance hphase⟩
  · -- Nobody is at work, so the first worker can take a unit that waits.
    obtain ⟨unit, hunit, hwork⟩ := Finset.exists_ne_zero_of_sum_ne_zero h
    cases hphase : pool.phase unit with
    | running worker rest => exact absurd ⟨unit, worker, rest, hphase⟩ hbusy
    | finished result => exact absurd (work_of_finished hphase) hwork
    | waiting =>
      have hjob := List.getElem?_eq_getElem (Finset.mem_range.mp hunit)
      exact ⟨_, .take hjob hphase load.workers_pos fun other rest hother ↦
        hbusy ⟨other, 0, rest, hother⟩⟩

/-- Without any work left all results are there. -/
theorem isSome_collected? (h : pool.totalWork load = 0) : (pool.collected? load).isSome := by
  refine Phase.isSome_collect? (List.forall_mem_map.mpr ?_)
  rintro ⟨job, unit⟩ hmem
  have hjob := List.mk_mem_zipIdx_iff_getElem?.mp hmem
  have hunit := (List.getElem?_eq_some_iff.mp hjob).1
  have hwork := Finset.sum_eq_zero_iff.mp h unit (Finset.mem_range.mpr hunit)
  cases hphase : pool.phase unit with
  | finished result => exact ⟨result, rfl⟩
  | running worker rest =>
    rw [work_of_running hphase] at hwork
    cases hwork
  | waiting =>
    rw [work_of_waiting hphase, Workload.unitSize_of_job hjob] at hwork
    cases hwork

private theorem IsFresh.totalWork_eq (h : pool.IsFresh) : pool.totalWork load = load.size :=
  Finset.sum_congr rfl fun unit _ ↦ work_of_waiting (h unit)

private theorem IsFresh.exists_schedule {first : Pool ε} (hfirst : first.IsFresh) :
    ∀ count ≤ load.size, ∃ pool, Schedule load first count pool := by
  intro count
  induction count with
  | zero => exact fun _ ↦ ⟨first, .start⟩
  | succ count ih =>
    intro hle
    obtain ⟨pool, hpool⟩ := ih (Nat.le_of_succ_le hle)
    have hwork := hpool.totalWork_add hfirst
    rw [hfirst.totalWork_eq] at hwork
    have hleft : pool.totalWork load ≠ 0 := by omega
    obtain ⟨next, hnext⟩ := exists_step hleft
    exact ⟨next, hpool.step hnext⟩

end Pool

private theorem Batch.compile_eq_compileUnits {ε : Type} {workers : Option Int}
    (h : workers.any (· ≤ 0) = false) (config : Config) (batch : Batch ε) :
    batch.compile config workers = (batch.compileUnits config).mapError .unit := by
  cases batch with
  | nil => rfl
  | cons unit rest =>
    rw [compile, h]
    rfl

namespace Workload

variable {ε : Type}

/-- Whoever makes the steps and in whatever order, they end after the same number of steps, and what
is collected is what the units give alone: all results in the order of the units, or the failure of
the first unit that fails. -/
theorem isOutcome_of_schedule (load : Workload ε) {first pool : Pool ε} (hfirst : first.IsFresh)
    {count : Nat} (h : Pool.Schedule load first count pool) :
    count ≤ load.size ∧
      (count < load.size → ∃ next, Pool.Step load pool next) ∧
      (count = load.size → (pool.collected? load).isSome) ∧
      ∀ outcome, pool.collected? load = some outcome →
        IsOutcome load.alone outcome ∧
          ((∀ unit, load.unitId unit = toString unit) →
            ∀ workers : Option Int, workers.any (· ≤ 0) = false →
              Batch.compile load.config workers (load.jobs.map Job.unit) =
                outcome.mapError .unit) := by
  have hcount := h.totalWork_add hfirst
  rw [hfirst.totalWork_eq] at hcount
  refine ⟨by omega, fun hlt ↦ Pool.exists_step (by omega),
    fun heq ↦ Pool.isSome_collected? (by omega), ?_⟩
  intro outcome hcollected
  have houtcome := (h.consistent hfirst).isOutcome hcollected
  refine ⟨houtcome, fun hids workers hworkers ↦ ?_⟩
  rw [load.alone_eq hids] at houtcome
  rw [Batch.compile_eq_compileUnits hworkers, Batch.compileUnits, houtcome.mapM_eq]

end Workload

namespace Job

/-- A unit that is a document already. -/
def ofDocument (name : String) (document : Document) : Job Empty where
  name := name
  source := .tree (.document document)
  program := pure (.document document)
  run_program := rfl

/-- A unit that registers a function before it comes to a document. -/
def registering (name : String) (registration : Registration) (document : Document) :
    Job Empty where
  name := name
  source := .action do
    let _ ← Build.register registration
    return .document document
  program := do
    let _ ← .atomic (Build.register registration)
    return .document document
  run_program := Process.run_bind _ _

end Job

/-- Two of three units register what is no function, and there are two workers. -/
theorem Workload.isOutcome_of_schedule_failing :
    let load : Workload Empty :=
      { config := {}, unitId := toString, workers := 2, workers_pos := by decide,
        jobs := [.ofDocument "first" {}, .registering "second" ⟨"deploy", none, .other "int"⟩ {},
          .registering "third" ⟨"task", none, .other "int"⟩ {}] }
    let idle : Pool Empty := ⟨fun _ ↦ .waiting, default, default, default⟩
    ∃ pool, Pool.Schedule load idle load.size pool ∧
      pool.collected? load = some (.error (.registration ⟨"deploy", .notCallable⟩)) := by
  intro load idle
  have hidle : idle.IsFresh := fun _ ↦ rfl
  obtain ⟨pool, hpool⟩ := hidle.exists_schedule load.size le_rfl
  obtain ⟨-, -, hsome, houtcome⟩ := isOutcome_of_schedule load hidle hpool
  obtain ⟨outcome, hcollected⟩ := Option.isSome_iff_exists.mp (hsome rfl)
  obtain ⟨-, hcompile⟩ := houtcome outcome hcollected
  have hvalue : Batch.compile {} (some 2) (load.jobs.map Job.unit) =
      .error (.unit (.registration ⟨"deploy", .notCallable⟩)) := rfl
  have hbatch := hvalue.symm.trans (hcompile (fun _ ↦ rfl) (some 2) rfl)
  cases outcome with
  | ok results => cases hbatch
  | error error =>
    cases hbatch
    exact ⟨pool, hpool, hcollected⟩

end Runbook
