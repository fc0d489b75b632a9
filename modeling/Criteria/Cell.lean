import Criteria.Kind
import Criteria.Timestamp

/-!
# Records

A record gives each field name a cell.  A cell holds a value of some kind, or
nothing; a schema says which fields there are and of which kind.  The values of a
typed column become cells in one way, so a column's type fixes both the kind of
its field and the cells that occur in it.
-/

namespace Criteria

/-- What a record holds for a field. -/
inductive Cell where
  | text (value : String)
  | textList (values : List String)
  | date (value : Timestamp)
  | optionalDate (value : Option Timestamp)
  /-- A number; no test looks at which. -/
  | number
  | bool (value : Bool)
  /-- The field is missing, or null. -/
  | none
deriving DecidableEq, Repr

namespace Cell

/-- Whether the cell holds nothing. -/
def isNone : Cell → Bool
  | none => true
  | _ => false

/-- The text of the cell, if it holds one. -/
def text? : Cell → Option String
  | text value => some value
  | _ => Option.none

/-- The list of the cell, if it holds one. -/
def textList? : Cell → Option (List String)
  | textList values => some values
  | _ => Option.none

/-- The instant of the cell, if it holds one. -/
def timestamp? : Cell → Option Timestamp
  | date value => some value
  | optionalDate value => value
  | _ => Option.none

/-- Whether the cell holds no value: nothing at all, or a null instant. -/
def isNull : Cell → Bool
  | none | optionalDate Option.none => true
  | _ => false

end Cell

/-- The cells of a record, by field name. -/
abbrev Record := String → Cell

/-- The fields of a kind of record, by name. -/
abbrev Schema := String → Option Kind

/-- The four ways to date something. -/
inductive DateForm where
  | timestamp
  | date
  | dateTime
  | zoned
deriving DecidableEq, Repr

/-- A value that dates something. -/
inductive Dated where
  | timestamp (value : Timestamp)
  | date (value : Date)
  | dateTime (value : DateTime)
  | zoned (value : ZonedDateTime)
deriving DecidableEq, Repr

namespace Dated

/-- The way in which a value dates. -/
def form : Dated → DateForm
  | timestamp _ => .timestamp
  | date _ => .date
  | dateTime _ => .dateTime
  | zoned _ => .zoned

/-- The instant that a dating means. -/
def toTimestamp : Dated → Timestamp
  | timestamp value => value
  | date value => value.toTimestamp
  | dateTime value => value.toTimestamp
  | zoned value => value.toTimestamp

end Dated

/-- A value of a typed column. -/
inductive Scalar where
  | null
  | text (value : String)
  | textList (values : List String)
  | dated (value : Dated)
  | number
  | bool (value : Bool)
deriving DecidableEq, Repr

/-- The type of a column of records. -/
inductive ColumnType where
  | text (nullable : Bool)
  | textList (nullable : Bool)
  | date (form : DateForm) (nullable : Bool)
  | number
  | bool
deriving DecidableEq, Repr

namespace ColumnType

/-- The kind of a field with the column's values. -/
def kind : ColumnType → Kind
  | text _ => .text
  | textList _ => .textList
  | date _ false => .date
  | date _ true => .optionalDate
  | number => .number
  | bool => .bool

/-- The cell of a column's value; a null text or list leaves the cell empty, a
null date keeps the cell and leaves out the instant.  There is no cell for a
value that is not of the column's type. -/
def cell? : ColumnType → Scalar → Option Cell
  | text _, .text value => some (.text value)
  | text true, .null => some .none
  | textList _, .textList values => some (.textList values)
  | textList true, .null => some .none
  | date form false, .dated value =>
    if value.form = form then some (.date value.toTimestamp) else none
  | date form true, .dated value =>
    if value.form = form then some (.optionalDate value.toTimestamp) else none
  | date _ true, .null => some (.optionalDate none)
  | number, .number => some .number
  | bool, .bool value => some (.bool value)
  | _, _ => none

end ColumnType

/-- The schema of named columns; of two with one name the first counts. -/
def Schema.ofColumns (columns : List (String × ColumnType)) : Schema :=
  fun name => (columns.lookup name).map ColumnType.kind

/-- The record of named cells; a field without a cell is missing. -/
def Record.ofCells (cells : List (String × Cell)) : Record :=
  fun name => (cells.lookup name).getD .none

end Criteria
