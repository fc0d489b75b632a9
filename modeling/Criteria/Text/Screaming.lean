import Criteria.Text.Property.Alphabetic
import Criteria.Text.Property.Uppercase

/-!
# Screaming names

The form of a name that names a constant: words with underscores between them, and
letters in capitals.  A capital begins a word when it follows a letter that is none;
underscores and hyphens separate words.  Only ASCII letters are turned into capitals.
-/

namespace Criteria.Text

/-- The screaming form of the rest of a name; `afterLetter` says whether a letter that
is not a capital comes just before it. -/
def screamingFrom (afterLetter : Bool) : List Char → List Char
  | [] => []
  | c :: rest =>
    if isUppercase c then
      (if afterLetter then ['_', c] else [c]) ++ screamingFrom false rest
    else if c = '_' ∨ c = '-' then '_' :: screamingFrom false rest
    else c.toUpper :: screamingFrom (isAlphabetic c) rest

/-- The screaming form of a name. -/
def screaming (s : String) : String :=
  String.ofList (screamingFrom false s.toList)

end Criteria.Text
