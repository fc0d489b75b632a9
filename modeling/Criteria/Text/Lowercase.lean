import Criteria.Text.Property.Cased
import Criteria.Text.Property.CaseIgnorable
import Criteria.Text.Property.LowerRuns

/-!
# Full lowercase

Lowercase of a whole text.  Every character is replaced by its counterpart
independently of its surroundings, with one exception: a capital sigma becomes
the final form where it ends a word and the common form elsewhere.  A sigma ends
a word when, looking through case-ignorable characters, a cased character stands
before it and none stands after it.
-/

namespace Criteria.Text

/-- The capital sigma, the one letter whose lowercase depends on its place. -/
def capitalSigma : Char := 'Σ'

/-- The lowercase of a character on its own. -/
def lowerChar (c : Char) : List Char :=
  if c = 'İ' then ['i', '\u0307']
  else [Char.ofNat (LowerRun.counterpart lowerRuns c.toNat)]

/-- Whether a cased character is the first that is not case-ignorable. -/
def meetsCased (cs : List Char) : Bool :=
  match cs.dropWhile isCaseIgnorable with
  | [] => false
  | c :: _ => isCased c

/-- The lowercase of a capital sigma between `before`, read backwards, and
`after`. -/
def lowerSigma (before after : List Char) : Char :=
  if meetsCased before && !meetsCased after then 'ς' else 'σ'

/-- The lowercase of a text that follows `before`, read backwards. -/
def lowerFrom (before : List Char) : List Char → List Char
  | [] => []
  | c :: rest =>
    (if c = capitalSigma then [lowerSigma before rest] else lowerChar c)
      ++ lowerFrom (c :: before) rest

/-- The lowercase of a text given as its characters. -/
def lowerChars (cs : List Char) : List Char :=
  lowerFrom [] cs

/-- The lowercase of a text. -/
def lowercase (s : String) : String :=
  String.ofList (lowerChars s.toList)

end Criteria.Text
