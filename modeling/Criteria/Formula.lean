import Criteria.Test

/-!
# Formulas

A formula combines tests of a record's fields by conjunction and disjunction.
It is run on a record, read off as the list of its leaves, or folded from the
leaves up into something else.

The written form puts parentheses only where the two connectives mix.
-/

namespace Criteria

/-- A combination of tests. -/
inductive Formula where
  | leaf (atom : Atom)
  | and (left right : Formula)
  | or (left right : Formula)
deriving DecidableEq, Repr

namespace Formula

/-- Joins two formulas. -/
def join (logic : Logic) (left right : Formula) : Formula :=
  match logic with
  | .and => and left right
  | .or => or left right

/-- Whether a record satisfies the formula. -/
def accepts : Formula → Record → Bool
  | leaf a, r => a.accepts r
  | and left right, r => left.accepts r && right.accepts r
  | or left right, r => left.accepts r || right.accepts r

/-- The leaves from left to right. -/
def leaves : Formula → List Atom
  | leaf a => [a]
  | and left right => left.leaves ++ right.leaves
  | or left right => left.leaves ++ right.leaves

/-! ## Written form -/

/-- The connective at the root, if the formula has one. -/
def connective? : Formula → Option Logic
  | leaf _ => none
  | and _ _ => some .and
  | or _ _ => some .or

/-- The written form of an operand: in parentheses if its connective is not the
one that it is an operand of. -/
def enclose (outer : Logic) (inner : Option Logic) (s : String) : String :=
  if inner = none ∨ inner = some outer then s else "(" ++ s ++ ")"

/-- The formula in words. -/
def text : Formula → String
  | leaf a => a.text
  | and left right =>
    enclose .and left.connective? left.text ++ " AND "
      ++ enclose .and right.connective? right.text
  | or left right =>
    enclose .or left.connective? left.text ++ " OR "
      ++ enclose .or right.connective? right.text

end Formula

end Criteria
