import Criteria.Text.Quoted

/-!
# Tokens of source text

Source text is a sequence of trees: identifiers, punctuation marks, literals, and
groups between matching delimiters.  A mark is joint when the next one belongs to
the same operator.  A literal keeps the text that it is written with; a text
literal also knows the text that it means.

Tokens are written with one space between them, except that nothing follows a
joint mark and no space stands inside parentheses and brackets.
-/

namespace Criteria.Source

/-- The delimiters of a group. -/
inductive Delimiter where
  | parenthesis
  | bracket
  | brace
deriving DecidableEq, Repr

/-- A literal: its own text, and the text that it means if it is a text literal. -/
structure Literal where
  text : String
  value : Option String
deriving DecidableEq, Repr

/-- A token tree. -/
inductive Token where
  /-- An identifier; a raw one begins with `r#`. -/
  | ident (text : String)
  | punct (char : Char) (joint : Bool)
  | literal (literal : Literal)
  | group (delimiter : Delimiter) (tokens : List Token)
deriving Repr

/-- Trees in sequence. -/
abbrev Tokens := List Token

/-! ## Text literals -/

/-- The written form of a text's characters in a literal: quoted as always, but
with a single quote left alone, and a NUL spelled out where an octal digit
follows. -/
def escapeLiteral : List Char → List Char
  | [] => []
  | '\x00' :: rest =>
    (match rest with
      | c :: _ => if '0' ≤ c ∧ c ≤ '7' then ['\\', 'x', '0', '0'] else ['\\', '0']
      | [] => ['\\', '0']) ++ escapeLiteral rest
  | c :: rest => Text.escapeChar c ++ escapeLiteral rest

/-- The literal that means a text. -/
def Literal.ofText (s : String) : Literal where
  text := String.ofList ('"' :: escapeLiteral s.toList ++ ['"'])
  value := some s

namespace Token

/-- The token of a text literal. -/
def text (s : String) : Token := .literal (.ofText s)

/-- Whether the next token belongs to the same operator. -/
def isJoint : Token → Bool
  | punct _ joint => joint
  | _ => false

mutual

/-- The written form of a token. -/
def write : Token → String
  | ident text => text
  | punct char _ => String.singleton char
  | literal l => l.text
  | group .parenthesis tokens => "(" ++ writeAll tokens ++ ")"
  | group .bracket tokens => "[" ++ writeAll tokens ++ "]"
  | group .brace [] => "\x7b \x7d"
  | group .brace (first :: rest) => "\x7b " ++ writeAll (first :: rest) ++ " \x7d"

/-- The written form of tokens in sequence. -/
def writeAll : List Token → String
  | [] => ""
  | [t] => t.write
  | t :: next :: rest =>
    t.write ++ (if t.isJoint then "" else " ") ++ writeAll (next :: rest)

end

/-- Whether a token is the identifier with a text. -/
def isIdent (word : String) : Token → Bool
  | ident text => text == word
  | _ => false

end Token

/-! ## Code from words -/

/-- The marks of an operator, all but the last joint. -/
def operatorTokens : List Char → Tokens
  | [] => []
  | [c] => [.punct c false]
  | c :: rest => .punct c true :: operatorTokens rest

/-- The tokens of a word: a lifetime, an operator, or an identifier. -/
def wordTokens (word : List Char) : Tokens :=
  match word with
  | [] => []
  | '\'' :: name => [.punct '\'' true, .ident (String.ofList name)]
  | c :: _ =>
    if c.isAlpha || c == '_' then [.ident (String.ofList word)] else operatorTokens word

/-- Cuts a text at spaces. -/
def splitWords (word : List Char) : List Char → List (List Char)
  | [] => [word.reverse]
  | ' ' :: rest => word.reverse :: splitWords [] rest
  | c :: rest => splitWords (c :: word) rest

/-- The tokens of code whose words are separated by spaces and which has neither
groups nor literals. -/
def code (s : String) : Tokens :=
  (splitWords [] s.toList).flatMap wordTokens

/-- Tokens in parentheses. -/
def parens (tokens : Tokens) : Token := .group .parenthesis tokens

/-- Tokens in brackets. -/
def brackets (tokens : Tokens) : Token := .group .bracket tokens

/-- Tokens in braces. -/
def braces (tokens : Tokens) : Token := .group .brace tokens

end Criteria.Source
