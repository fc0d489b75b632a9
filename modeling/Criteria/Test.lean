import Criteria.Cell
import Criteria.Text.Quoted
import Criteria.Text.Substring

/-!
# Tests

A test compares a value of a filter with one cell of a record.  A text held by a
test is meant to be in the normal form of the test's case already, so only the
record's side is normalized when the test is run.  A cell that holds nothing, or a
value of another kind, is never accepted.
-/

namespace Criteria

/-- A comparison with one cell. -/
inductive Test where
  /-- The cell's text is the value. -/
  | textEquals (value : String) (case : Case)
  /-- The value stands in the cell's text. -/
  | textContains (value : String) (case : Case)
  /-- The cell's text is one of the values. -/
  | oneOf (values : List String) (case : Case)
  /-- The cell's list shares a text with the values. -/
  | overlaps (values : List String) (case : Case)
  /-- The value compares with the cell's instant, the value on the left. -/
  | date (op : DateOp) (value : Timestamp) (nullable : Bool)
deriving DecidableEq, Repr

namespace Test

/-! ## Construction from raw values -/

/-- Equality with a text. -/
def equalTo (value : String) (case : Case) : Test :=
  textEquals (case.normalize value) case

/-- Occurrence of a text. -/
def containing (value : String) (case : Case) : Test :=
  textContains (case.normalize value) case

/-- Membership in a list of texts. -/
def amongst (values : List String) (case : Case) : Test :=
  oneOf (values.map case.normalize) case

/-- A text in common with a list. -/
def sharing (values : List String) (case : Case) : Test :=
  overlaps (values.map case.normalize) case

/-! ## Running a test -/

/-- Whether the test accepts a cell. -/
def accepts : Test → Cell → Bool
  | textEquals value case, .text s => case.normalize s == value
  | textContains value case, .text s =>
    Text.occursIn value.toList (case.normalize s).toList
  | oneOf values case, .text s => values.contains (case.normalize s)
  | overlaps values case, .textList items =>
    items.any fun s => values.contains (case.normalize s)
  | date op value _, .date t => Timestamp.compareBy op value t
  | date op value _, .optionalDate (some t) => Timestamp.compareBy op value t
  | _, _ => false

/-! ## Written forms -/

/-- The mark in front of a comparison that ignores case. -/
def caseMark : Case → String
  | .sensitive => ""
  | .insensitive => "~"

/-- The test as it is read after the name of the record's field; the comparison
of instants is therefore flipped. -/
def text : Test → String
  | textEquals value case => caseMark case ++ "== " ++ Text.quote value
  | textContains value case => caseMark case ++ "contains " ++ Text.quote value
  | oneOf values case => caseMark case ++ "in " ++ Text.quoteList values
  | overlaps values case => caseMark case ++ "overlaps " ++ Text.quoteList values
  | date op value _ => op.flipped.symbol ++ " " ++ value.text

end Test

/-- A test bound to a field of the record. -/
structure Atom where
  field : String
  test : Test
deriving DecidableEq, Repr

namespace Atom

/-- Whether the test accepts the field's cell. -/
def accepts (a : Atom) (r : Record) : Bool :=
  a.test.accepts (r a.field)

/-- The field and the test in words; a question mark tells a date that may be
null. -/
def text (a : Atom) : String :=
  match a.test with
  | .date _ _ true => a.field ++ "? " ++ a.test.text
  | _ => a.field ++ " " ++ a.test.text

end Atom

end Criteria
