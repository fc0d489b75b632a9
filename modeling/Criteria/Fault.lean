import Criteria.Keyword
import Criteria.Kind

/-!
# Faults

What can be wrong with a filter: with its table of criteria, with its fit to the
records it is compiled for, or with a keyword.  A fault is of one of two
categories, according to whether the table alone shows it.
-/

namespace Criteria

/-- A reason to refuse a filter or a keyword. -/
inductive Fault where
  /-- The table has no rows. -/
  | noCriteria
  /-- A row declares a kind that cannot be filtered by. -/
  | unsupportedKind (field : String) (kind : Kind)
  /-- A row has an empty name. -/
  | emptyName
  /-- A row has the name of an earlier one. -/
  | duplicateField (field : String)
  /-- A row aims at a field that the records lack. -/
  | missingTarget (field target : String)
  /-- A row's value cannot be compared with the field it aims at. -/
  | unsupportedPairing (field : String) (filterKind : Kind) (target : String) (recordKind : Kind)
  /-- A text is not a keyword of the family. -/
  | unknownKeyword (family : KeywordFamily) (text : String)
deriving DecidableEq, Repr

/-- The two categories of fault. -/
inductive FaultCategory where
  /-- The table is unusable, whatever it is compiled for. -/
  | configuration
  /-- The table does not fit the records, or a keyword is unknown. -/
  | schemaMismatch
deriving DecidableEq, Repr

namespace KeywordFamily

/-- What the keywords of a family stand for. -/
def subject : KeywordFamily → String
  | case => "case sensitivity"
  | textMatch => "text comparison method"
  | dateOp => "comparison operation"
  | logic => "logical operation"

end KeywordFamily

namespace Fault

/-- The category of a fault. -/
def category : Fault → FaultCategory
  | noCriteria | unsupportedKind .. | emptyName | duplicateField .. => .configuration
  | missingTarget .. | unsupportedPairing .. | unknownKeyword .. => .schemaMismatch

/-- The fault in words. -/
def message : Fault → String
  | noCriteria =>
    "filter declares no annotated fields; at least one field needs filter metadata"
  | unsupportedKind field kind =>
    "filter field '" ++ field ++ "' has unsupported kind " ++ kind.title
      ++ "; expected text, text list or optional date"
  | emptyName => "filter field names must not be empty"
  | duplicateField field => "filter field '" ++ field ++ "' is declared more than once"
  | missingTarget field target =>
    "model has no field '" ++ target ++ "' required by filter field '" ++ field ++ "'"
  | unsupportedPairing field filterKind target recordKind =>
    filterKind.title ++ " filter field '" ++ field ++ "' cannot target " ++ recordKind.title
      ++ " model field '" ++ target ++ "'"
  | unknownKeyword family text => "unknown " ++ family.subject ++ " '" ++ text ++ "'"

end Fault

/-- Reads a keyword for case sensitivity. -/
def Case.parse (s : String) : Except Fault Case :=
  (Case.ofKeyword? s).elim (.error (.unknownKeyword .case s)) .ok

/-- Reads a keyword for text comparison. -/
def TextMatch.parse (s : String) : Except Fault TextMatch :=
  (TextMatch.ofKeyword? s).elim (.error (.unknownKeyword .textMatch s)) .ok

/-- Reads a keyword for the comparison of instants. -/
def DateOp.parse (s : String) : Except Fault DateOp :=
  (DateOp.ofKeyword? s).elim (.error (.unknownKeyword .dateOp s)) .ok

/-- Reads a keyword for joining criteria. -/
def Logic.parse (s : String) : Except Fault Logic :=
  (Logic.ofKeyword? s).elim (.error (.unknownKeyword .logic s)) .ok

end Criteria
