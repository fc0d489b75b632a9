import Criteria.Fault

/-!
# Spellings of keywords

The keywords that directives are written with, as tables: for every choice the
spellings that name it, in the order in which they are listed when a word is none of
them.  Letters are folded within ASCII before a word is looked up.
-/

namespace Criteria.Derive

/-- The choices of a family, each with its spellings. -/
abbrev Spellings (α : Type) := List (α × List String)

namespace Spellings

variable {α : Type}

/-- The choice that a word spells. -/
def find? (table : Spellings α) (word : String) : Option α :=
  (List.find? (fun row => row.2.contains (foldAscii word)) table).map Prod.fst

/-- Every spelling, in order. -/
def words (table : Spellings α) : List String :=
  table.flatMap Prod.snd

end Spellings

/-- How letter case is spelt. -/
def caseSpellings : Spellings Case := [
  (.sensitive, ["sensitive", "case_sensitive"]),
  (.insensitive, ["insensitive", "case_insensitive", "ignore_case"])]

/-- How comparisons of text are spelt. -/
def textMatchSpellings : Spellings TextMatch := [
  (.equals, ["equals", "eq"]),
  (.contains, ["contains"])]

/-- How comparisons of instants are spelt. -/
def dateOpSpellings : Spellings DateOp := [
  (.equality, ["equality", "eq", "=="]),
  (.inequality, ["inequality", "ne", "!="]),
  (.lessThan, ["less_than", "lt", "<"]),
  (.lessThanOrEqual, ["less_than_or_equal", "lte", "<="]),
  (.greaterThan, ["greater_than", "gt", ">"]),
  (.greaterThanOrEqual, ["greater_than_or_equal", "gte", ">="])]

/-- How connectives are spelt. -/
def logicSpellings : Spellings Logic := [
  (.and, ["and", "&&"]),
  (.or, ["or", "||"])]

/-- The spellings of a family, in order. -/
def familyWords : KeywordFamily → List String
  | .case => caseSpellings.words
  | .textMatch => textMatchSpellings.words
  | .dateOp => dateOpSpellings.words
  | .logic => logicSpellings.words

end Criteria.Derive
