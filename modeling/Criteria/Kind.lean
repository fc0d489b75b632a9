/-!
# Kinds of field

The shape of a field, on the side of a filter or on the side of a record.  Three
of the six can be filtered by; the others occur in records only.
-/

namespace Criteria

/-- The declared shape of a field. -/
inductive Kind where
  | text
  | textList
  | date
  | optionalDate
  | number
  | bool
deriving DecidableEq, Repr

namespace Kind

/-- Whether a filter may declare a field of this kind. -/
def isFilterable : Kind → Bool
  | text | textList | optionalDate => true
  | date | number | bool => false

/-- The kind in words. -/
def title : Kind → String
  | text => "text"
  | textList => "text list"
  | date => "date"
  | optionalDate => "optional date"
  | number => "number"
  | bool => "bool"

/-- The kind as a keyword of the data format. -/
def name : Kind → String
  | text => "text"
  | textList => "text_list"
  | date => "date"
  | optionalDate => "optional_date"
  | number => "number"
  | bool => "bool"

end Kind

end Criteria
