import Criteria.Filter
import Criteria.Formula

/-!
# The construction of values

The form that shows how a value was put together: every constructor by name, every
field labelled, every text quoted, and no parentheses left out.  Of a choice without
fields only the constructor's name is left.
-/

namespace Criteria

def Case.inspect : Case → String
  | .sensitive => "Sensitive"
  | .insensitive => "Insensitive"

def TextMatch.inspect : TextMatch → String
  | .equals => "Equals"
  | .contains => "Contains"

def DateOp.inspect : DateOp → String
  | .equality => "Equality"
  | .inequality => "Inequality"
  | .lessThan => "LessThan"
  | .lessThanOrEqual => "LessThanOrEqual"
  | .greaterThan => "GreaterThan"
  | .greaterThanOrEqual => "GreaterThanOrEqual"

def Logic.inspect : Logic → String
  | .and => "And"
  | .or => "Or"

def Kind.inspect : Kind → String
  | .text => "Text"
  | .textList => "TextList"
  | .date => "Date"
  | .optionalDate => "OptionalDate"
  | .number => "Number"
  | .bool => "Bool"

/-- The keyword of a truth value. -/
def boolText (b : Bool) : String :=
  if b then "true" else "false"

/-- The count of an instant under its constructor. -/
def Timestamp.inspect (t : Timestamp) : String :=
  "Timestamp(" ++ String.ofList (intText t.nanos) ++ ")"

/-- A constructor with labelled fields. -/
def inspectFields (name : String) (fields : List (String × String)) : String :=
  name ++ " \x7b " ++ ", ".intercalate (fields.map fun f => f.1 ++ ": " ++ f.2) ++ " \x7d"

/-- The construction of options. -/
def Options.inspect (o : Options) : String :=
  inspectFields "FilterOptions" [("optimistic", boolText o.optimistic)]

/-- The construction of a page. -/
def Paging.inspect (p : Paging) : String :=
  inspectFields "Paging"
    [("starting_index", String.ofList (intText p.startingIndex.toInt)),
      ("page_size", String.ofList (intText p.pageSize.toInt))]

/-- The construction of a test. -/
def Test.inspect : Test → String
  | textEquals value case =>
    inspectFields "TextEquals" [("value", Text.quote value), ("case", case.inspect)]
  | textContains value case =>
    inspectFields "TextContains" [("value", Text.quote value), ("case", case.inspect)]
  | oneOf values case =>
    inspectFields "OneOf" [("values", Text.quoteList values), ("case", case.inspect)]
  | overlaps values case =>
    inspectFields "Overlaps" [("values", Text.quoteList values), ("case", case.inspect)]
  | date op value nullable =>
    inspectFields "Date"
      [("op", op.inspect), ("value", value.inspect), ("nullable", boolText nullable)]

/-- The construction of a test bound to a field. -/
def Atom.inspect (a : Atom) : String :=
  inspectFields "FieldPredicate" [("field", Text.quote a.field), ("test", a.test.inspect)]

namespace Formula

/-- The construction of a formula. -/
def inspectNode : Formula → String
  | leaf a => "Field(" ++ a.inspect ++ ")"
  | and left right => "And(" ++ left.inspectNode ++ ", " ++ right.inspectNode ++ ")"
  | or left right => "Or(" ++ left.inspectNode ++ ", " ++ right.inspectNode ++ ")"

/-- The construction of a formula as the condition that it is. -/
def inspect (f : Formula) : String :=
  "Predicate(" ++ f.inspectNode ++ ")"

end Formula

end Criteria
