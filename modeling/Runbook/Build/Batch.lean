import Runbook.Build.Compile

/-!
# Batches

The units of a batch are compiled in builds of their own. The results follow the order of the
units, and the error of the first unit that fails is the error of the batch.
-/

namespace Runbook

/-- Why a batch fails. -/
inductive BatchError (ε : Type) where
  /-- Nobody is there to compile the units. -/
  | noWorkers
  | unit (error : BuildError ε)
deriving Repr, Inhabited

/-- The units of a batch under their names. -/
abbrev Batch (ε : Type) := List (String × Source ε)

namespace Batch

variable {ε : Type}

/-- Units without names are named for their places. -/
def ofList (sources : List (Source ε)) : Batch ε :=
  sources.zipIdx.map fun (source, index) ↦ ("document-" ++ toString index, source)

/-- Units with names; of two with one name the later is compiled in the place of the earlier. -/
def ofMapping (units : List (String × Source ε)) : Batch ε := setNames units

/-- Compiles the units, each with its place as its id. -/
def compileUnits (config : Config) (batch : Batch ε) : Except (BuildError ε) (List Compilation) :=
  batch.zipIdx.mapM fun ((name, source), index) ↦
    (compileAlone (toString index) config name source).1

/-- Compiles a batch with some number of workers. An empty batch needs none. -/
def compile (config : Config) (workers : Option Int) (batch : Batch ε) :
    Except (BatchError ε) (List Compilation) :=
  if batch.isEmpty then .ok []
  else if workers.any (· ≤ 0) then .error .noWorkers
  else (batch.compileUnits config).mapError .unit

end Batch

end Runbook
