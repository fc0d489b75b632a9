import Criteria.Cell
import Criteria.Fault

/-!
# Criteria

A filter declares a table of criteria.  A criterion names a field of the filter,
says of which kind its values are, and carries the rules by which they are
matched: the field of the record that it aims at, how to compare, how to join the
criteria before it, and when it is left out.

A table is usable when it has rows and every row has a name of its own, not
empty, and a kind that can be filtered by; `Table.check` finds the first fault.
-/

namespace Criteria

/-- How the values of a criterion are matched and combined. -/
structure Rules where
  /-- The record's field, where its name differs from the filter's. -/
  target : Option String := none
  case : Case := .sensitive
  textMatch : TextMatch := .equals
  dateOp : DateOp := .equality
  logic : Logic := .and
  /-- Leaves the criterion out of the formula. -/
  skipSynthesis : Bool := false
  /-- Treats empty text and empty lists as absent. -/
  ignoreIfEmpty : Bool := true
deriving DecidableEq, Repr

/-- A row of a filter's table. -/
structure Criterion where
  name : String
  kind : Kind
  rules : Rules := {}
deriving DecidableEq, Repr

namespace Criterion

/-- The record's field that the criterion aims at: its own name unless the rules
give another. -/
def target (c : Criterion) : String :=
  c.rules.target.getD c.name

end Criterion

/-- The rows of a filter in the order of their declaration. -/
abbrev Table := List Criterion

namespace Table

/-- The fault of a row by itself and against the names used before it. -/
def rowFault? (used : List String) (c : Criterion) : Option Fault :=
  if c.name = "" then some .emptyName
  else if !c.kind.isFilterable then some (.unsupportedKind c.name c.kind)
  else if used.contains c.name then some (.duplicateField c.name)
  else none

/-- Checks rows in order against the names used before them. -/
def checkRows (used : List String) : Table → Except Fault Unit
  | [] => .ok ()
  | c :: rest =>
    match rowFault? used c with
    | some fault => .error fault
    | none => checkRows (c.name :: used) rest

/-- Checks that a table describes a usable filter. -/
def check (t : Table) : Except Fault Unit :=
  match t with
  | [] => .error .noCriteria
  | _ :: _ => checkRows [] t

end Table

end Criteria
