import Criteria.Source.Grammar.Item
import Criteria.Source.Grammar.Statement

/-!
# The grammar

The rules of all phrases together.  One step parses a phrase from the parser of the
phrases inside it; a phrase is a number of steps, and the size of its text bounds how
many are needed.
-/

namespace Criteria.Source.Grammar

open Criteria.Source.Parser

/-- The rule of each phrase. -/
def step (inner : Inner) : Inner
  | .type plus => type inner plus
  | .bound captures constant => bound inner captures constant
  | .pattern => pattern inner
  | .expression records => expression inner records
  | .early => early inner
  | .operand records => operand inner records
  | .operators left floor records => operators inner left floor records
  | .block attributed => do return { tokens := ← block inner attributed }
  | .item => item inner
  | .fields => do return { tokens := (← namedFields inner).2 }
  | .useTree rooted => useTree inner rooted

/-- A phrase in which others nest at most to a depth. -/
def phrase : Nat → Inner
  | 0, _ => violating "too deep"
  | depth + 1, p => step (phrase depth) p

/-- How deep phrases in tokens nest at most. -/
def depthBound (ts : Tokens) : Nat := 16 * (Token.writeAll ts).length + 64

end Criteria.Source.Grammar
