import Criteria.Fingerprint
import Criteria.Synthesis

/-!
# Checked filters

A filter whose table has been found usable.  Compiling goes through the check
unless the caller answers for the table, and a fault is reported with the stage
that found it.
-/

namespace Criteria

/-- A filter with a usable table. -/
structure CheckedFilter where
  filter : Filter
  usable : filter.table.check = .ok ()

/-- The stage of compiling at which a fault is found. -/
inductive Stage where
  | table
  | synthesis
deriving DecidableEq, Repr

/-- A fault and the stage that found it. -/
structure StagedFault where
  stage : Stage
  fault : Fault
deriving DecidableEq, Repr

namespace Filter

/-- Checks the table of a filter. -/
def checked (f : Filter) : Except StagedFault CheckedFilter :=
  match h : f.table.check with
  | .ok () => .ok ⟨f, h⟩
  | .error fault => .error ⟨.table, fault⟩

/-- The filter itself, after a check of its table if that is asked for. -/
def vetted (check : Bool) (f : Filter) : Except StagedFault Filter :=
  if check then f.checked.map CheckedFilter.filter else .ok f

/-- Compiles a filter, after a check of its table if that is asked for. -/
def compile (check : Bool) (schema : Schema) (options : Options) (f : Filter) :
    Except StagedFault (Option Formula) := do
  let f ← f.vetted check
  match f.synthesize schema options with
  | .ok formula => .ok formula
  | .error fault => .error ⟨.synthesis, fault⟩

end Filter

end Criteria
