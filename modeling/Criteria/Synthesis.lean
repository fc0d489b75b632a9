import Criteria.Filter
import Criteria.Formula

/-!
# Synthesis

A filter is compiled for a schema into a formula, criterion by criterion in the
order of the table.  A criterion contributes a leaf when it is not left out, its
target is a field of the records, and its value takes part; the leaves are then
joined from the left, each by the logic of its own criterion, so that a
disjunction reaches back over everything before it.  The first criterion that
cannot be compiled stops the synthesis.

Every step can be reported: the leaves as they are joined, the criteria that were
passed over for want of a target, and the outcome.
-/

namespace Criteria

/-- What a criterion does to the synthesis. -/
inductive Step where
  /-- Nothing: it is left out, or its value takes no part. -/
  | absent
  /-- It is passed over because the records lack its target. -/
  | untargeted (field target : String)
  /-- It joins a leaf to the ones before it. -/
  | fold (field : String) (logic : Logic) (atom : Atom)
deriving DecidableEq, Repr

/-- The test of a reading against a field of a kind, if the two can be compared. -/
def Rules.test? (rules : Rules) : Reading → Kind → Option Test
  | .text (some value), .text =>
    match rules.textMatch with
    | .equals => some (Test.equalTo value rules.case)
    | .contains => some (Test.containing value rules.case)
  | .textList (some values), .text => some (Test.amongst values rules.case)
  | .textList (some values), .textList => some (Test.sharing values rules.case)
  | .date (some value), .date => some (.date rules.dateOp value false)
  | .date (some value), .optionalDate => some (.date rules.dateOp value true)
  | _, _ => none

namespace Scanned

/-- The step of a criterion for a schema. -/
def step (schema : Schema) (options : Options) (s : Scanned) : Except Fault Step :=
  let c := s.criterion
  if c.rules.skipSynthesis then .ok .absent
  else
    match schema c.target with
    | none =>
      if options.optimistic then .ok (.untargeted c.name c.target)
      else .error (.missingTarget c.name c.target)
    | some kind =>
      if !s.isPresent then .ok .absent
      else
        match c.rules.test? s.reading kind with
        | some test => .ok (.fold c.name c.rules.logic ⟨c.target, test⟩)
        | none => .error (.unsupportedPairing c.name c.kind c.target kind)

end Scanned

namespace Step

/-- The leaf that a step joins, with its logic. -/
def leaf? : Step → Option (Logic × Atom)
  | fold _ logic atom => some (logic, atom)
  | _ => none

/-- The steps of criteria in order, up to the first fault. -/
def run (schema : Schema) (options : Options) : List Scanned → List Step × Option Fault
  | [] => ([], none)
  | s :: rest =>
    match s.step schema options with
    | .error fault => ([], some fault)
    | .ok step => let (steps, fault) := run schema options rest; (step :: steps, fault)

end Step

namespace Formula

/-- Joins a leaf to what has been joined so far; the first leaf stands alone,
whatever its logic. -/
def extend (sofar : Option Formula) (part : Logic × Atom) : Option Formula :=
  match sofar with
  | none => some (leaf part.2)
  | some f => some (join part.1 f (leaf part.2))

/-- Joins leaves from the left. -/
def ofLeaves? (parts : List (Logic × Atom)) : Option Formula :=
  parts.foldl extend none

end Formula

/-- A report from the synthesis. -/
inductive Event where
  /-- A leaf was joined for a field. -/
  | folding (field : String) (logic : Logic) (atom : Atom)
  /-- A field was passed over because the records lack its target. -/
  | skipping (field target : String)
  /-- The synthesis came to a formula. -/
  | synthesized (formula : Formula)
  /-- No criterion contributed. -/
  | nothingToFilter
deriving DecidableEq, Repr

namespace Step

/-- The report of a step, if it makes one. -/
def event? : Step → Option Event
  | absent => none
  | untargeted field target => some (.skipping field target)
  | fold field logic atom => some (.folding field logic atom)

end Step

namespace Filter

/-- Compiles a filter for a schema; no formula if no criterion contributes.  The
table is taken to be usable. -/
def synthesize (schema : Schema) (options : Options) (f : Filter) :
    Except Fault (Option Formula) :=
  match Step.run schema options f.scan with
  | (_, some fault) => .error fault
  | (steps, none) => .ok (Formula.ofLeaves? (steps.filterMap Step.leaf?))

/-- The reports of a synthesis in order.  The outcome comes last; a fault is not
reported. -/
def events (schema : Schema) (options : Options) (f : Filter) : List Event :=
  (Step.run schema options f.scan).1.filterMap Step.event?
    ++ match f.synthesize schema options with
      | .error _ => []
      | .ok (some formula) => [.synthesized formula]
      | .ok none => [.nothingToFilter]

end Filter

namespace Event

/-- How much a report matters. -/
def level : Event → String
  | folding .. => "TRACE"
  | _ => "DEBUG"

/-- What a report says. -/
def message : Event → String
  | folding .. => "folding"
  | skipping .. => "model field not found, skipping"
  | synthesized .. => "synthesized predicate"
  | nothingToFilter => "no field contributed, nothing to filter"

/-- The labelled data of a report. -/
def details : Event → List (String × String)
  | folding field logic atom =>
    [("field", field), ("logic", logic.name), ("predicate", atom.text)]
  | skipping field target => [("field", field), ("model_field", target)]
  | synthesized formula => [("predicate", formula.text)]
  | nothingToFilter => []

end Event

end Criteria
