import Criteria.Criterion

/-!
# Filters

A filter is a table of criteria together with the current value of each field,
and the page of the result that is asked for.  A value that is null never takes
part; an empty text or list takes part only where the criterion says so.
-/

namespace Criteria

/-- What a filter currently holds for a field. -/
inductive Reading where
  | text (value : Option String)
  | textList (values : Option (List String))
  | date (value : Option Timestamp)
  /-- The filter has no such field. -/
  | unreadable
deriving DecidableEq, Repr

namespace Reading

/-- Whether the value takes part in the filter's condition. -/
def isPresent (ignoreIfEmpty : Bool) : Reading → Bool
  | text (some s) => s != "" || !ignoreIfEmpty
  | textList (some l) => !l.isEmpty || !ignoreIfEmpty
  | date (some _) => true
  | text none | textList none | date none | unreadable => false

/-- The kind of the value, if there is one. -/
def kind? : Reading → Option Kind
  | text _ => some .text
  | textList _ => some .textList
  | date _ => some .optionalDate
  | unreadable => none

end Reading

/-- The type of a filter's field. -/
inductive EntryType where
  | text (nullable : Bool)
  | textList (nullable : Bool)
  | date (form : DateForm)
deriving DecidableEq, Repr

namespace EntryType

/-- The kind of a field with values of the type. -/
def kind : EntryType → Kind
  | text _ => .text
  | textList _ => .textList
  | date _ => .optionalDate

/-- The reading of a value of the type; there is none for another value. -/
def reading? : EntryType → Scalar → Option Reading
  | text _, .text value => some (.text value)
  | text true, .null => some (.text none)
  | textList _, .textList values => some (.textList values)
  | textList true, .null => some (.textList none)
  | date form, .dated value =>
    if value.form = form then some (.date value.toTimestamp) else none
  | date _, .null => some (.date none)
  | _, _ => none

end EntryType

/-- The page of a result: where it starts and how long it is, each -1 if unset. -/
structure Paging where
  startingIndex : Int32 := -1
  pageSize : Int32 := -1
deriving DecidableEq, Repr

/-- How a filter is compiled. -/
structure Options where
  /-- Passes over criteria that aim at fields the records lack. -/
  optimistic : Bool := false
deriving DecidableEq, Repr

/-- A filter: its table, its current values by field name, and its page. -/
structure Filter where
  table : Table
  read : String → Reading
  paging : Paging := {}

/-- A criterion together with its current value. -/
structure Scanned where
  criterion : Criterion
  reading : Reading
deriving DecidableEq, Repr

namespace Scanned

/-- Whether the value takes part under the criterion's rule on empty values. -/
def isPresent (s : Scanned) : Bool :=
  s.reading.isPresent s.criterion.rules.ignoreIfEmpty

end Scanned

namespace Filter

/-- The filter whose fields hold the listed readings.  Of two rows with one name
both read the first value. -/
def ofRows (rows : List (Criterion × Reading)) (paging : Paging) : Filter where
  table := rows.map Prod.fst
  read name := ((rows.find? fun row => row.1.name == name).map Prod.snd).getD .unreadable
  paging

/-- The criteria in order, each with its current value. -/
def scan (f : Filter) : List Scanned :=
  f.table.map fun c => ⟨c, f.read c.name⟩

/-- Whether some criterion has a value that takes part. -/
def hasAny (f : Filter) : Bool :=
  f.scan.any Scanned.isPresent

/-- Whether every criterion has a value that takes part. -/
def hasAll (f : Filter) : Bool :=
  f.scan.all Scanned.isPresent

end Filter

end Criteria
