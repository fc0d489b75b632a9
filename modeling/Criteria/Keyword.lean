import Criteria.Text.Lowercase

/-!
# Matching keywords

The four choices that a criterion makes: how text treats letter case, how text
is compared, how instants are compared, and how a criterion joins the ones
before it.  Each has a keyword for its `name`, and `ofKeyword?` reads this and the
other spellings of a choice; letters are folded within ASCII before a spelling is
looked up.
-/

namespace Criteria

/-- Folds the ASCII capitals of a text; every other character stays. -/
def foldAscii (s : String) : String :=
  String.ofList (s.toList.map Char.toLower)

/-- The kinds of keyword. -/
inductive KeywordFamily where
  | case
  | textMatch
  | dateOp
  | logic
deriving DecidableEq, Repr

/-- Whether letter case matters when texts are compared. -/
inductive Case where
  | sensitive
  | insensitive
deriving DecidableEq, Repr

namespace Case

/-- The text that is compared in place of `s`. -/
def normalize (case : Case) (s : String) : String :=
  match case with
  | sensitive => s
  | insensitive => Text.lowercase s

def name : Case → String
  | sensitive => "sensitive"
  | insensitive => "insensitive"

/-- Both choices are spelt with and without the word `case`; one has a third spelling. -/
def ofKeyword? (s : String) : Option Case :=
  match foldAscii s with
  | "sensitive" | "case_sensitive" => some sensitive
  | "insensitive" | "case_insensitive" | "ignore_case" => some insensitive
  | _ => none

end Case

/-- How a text of the filter is compared with a text of the record. -/
inductive TextMatch where
  | equals
  | contains
deriving DecidableEq, Repr

namespace TextMatch

def name : TextMatch → String
  | equals => "equals"
  | contains => "contains"

/-- Only equality has a short spelling. -/
def ofKeyword? (s : String) : Option TextMatch :=
  match foldAscii s with
  | "equals" | "eq" => some equals
  | "contains" => some contains
  | _ => none

end TextMatch

/-- A comparison of two instants, the filter's on the left. -/
inductive DateOp where
  | equality
  | inequality
  | lessThan
  | lessThanOrEqual
  | greaterThan
  | greaterThanOrEqual
deriving DecidableEq, Repr

namespace DateOp

/-- Whether the comparison holds of two values in the given order. -/
def holdsFor (op : DateOp) (o : Ordering) : Bool :=
  match op with
  | equality => o == .eq
  | inequality => o != .eq
  | lessThan => o == .lt
  | lessThanOrEqual => o != .gt
  | greaterThan => o == .gt
  | greaterThanOrEqual => o != .lt

/-- Whether the comparison holds between a filter's number and a record's. -/
def eval (op : DateOp) (filter record : Int) : Bool :=
  op.holdsFor (compare filter record)

/-- The comparison that says the same with its sides exchanged. -/
def flipped : DateOp → DateOp
  | equality => equality
  | inequality => inequality
  | lessThan => greaterThan
  | lessThanOrEqual => greaterThanOrEqual
  | greaterThan => lessThan
  | greaterThanOrEqual => lessThanOrEqual

/-- The sign of the comparison. -/
def symbol : DateOp → String
  | equality => "=="
  | inequality => "!="
  | lessThan => "<"
  | lessThanOrEqual => "<="
  | greaterThan => ">"
  | greaterThanOrEqual => ">="

def name : DateOp → String
  | equality => "equality"
  | inequality => "inequality"
  | lessThan => "less_than"
  | lessThanOrEqual => "less_than_or_equal"
  | greaterThan => "greater_than"
  | greaterThanOrEqual => "greater_than_or_equal"

/-- A comparison may be spelt out, abbreviated, or written as its symbol. -/
def ofKeyword? (s : String) : Option DateOp :=
  match foldAscii s with
  | "equality" | "eq" | "==" => some equality
  | "inequality" | "ne" | "!=" => some inequality
  | "less_than" | "lt" | "<" => some lessThan
  | "less_than_or_equal" | "lte" | "<=" => some lessThanOrEqual
  | "greater_than" | "gt" | ">" => some greaterThan
  | "greater_than_or_equal" | "gte" | ">=" => some greaterThanOrEqual
  | _ => none

/-- Exchanging the sides is undone by flipping the comparison. -/
theorem eval_flipped (op : DateOp) (a b : Int) : op.flipped.eval a b = op.eval b a := by
  have h : compare a b = (compare b a).swap := by
    rw [Int.compare_swap]
  unfold eval
  rw [h]
  cases op <;> cases compare b a <;> rfl

end DateOp

/-- How a criterion joins the criteria before it. -/
inductive Logic where
  | and
  | or
deriving DecidableEq, Repr

namespace Logic

def name : Logic → String
  | and => "and"
  | or => "or"

/-- A connective may be written as an operator. -/
def ofKeyword? (s : String) : Option Logic :=
  match foldAscii s with
  | "and" | "&&" => some and
  | "or" | "||" => some or
  | _ => none

end Logic

end Criteria
