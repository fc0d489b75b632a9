import Criteria.Source.Grammar
import Criteria.Source.Lexer

/-!
# Reading whole texts

A text is cut into tokens, and all of the tokens have to be one phrase.
-/

namespace Criteria.Source

open Criteria.Source.Parser

/-- The result of a parser on all tokens, for phrases as deep as the tokens allow. -/
def readAll {α : Type} (p : Inner → Parser α) (tokens : Tokens) : Except ParseError α :=
  Parser.run (p (Grammar.phrase (Grammar.depthBound tokens))) tokens

/-- The declaration in a text, if the text is one. -/
def Item.parse? (s : String) : Option Item :=
  (lex? s).bind fun ts => (readAll Grammar.typeDeclaration ts).toOption

/-- The attributes in a text, if it holds nothing else. -/
def Attribute.parseAll? (s : String) : Option (List Attribute) :=
  (lex? s).bind fun ts => (readAll Grammar.attributes ts).toOption

/-- The entries of a list, with commas between them.  What is left over in a group of an
entry does not count. -/
def entries (tokens : Tokens) : Except ParseError (List Entry) :=
  let inner := Grammar.phrase (Grammar.depthBound tokens)
  (commaSeparated (Grammar.entry inner) { tokens }).map fun r => r.1.map fun (a, _) => a.entry

/-- The identifier that a text is, if it is one and no keyword; blanks and comments
around it do not count. -/
def identifier? (s : String) : Option String :=
  (lex? s).bind fun ts => (Parser.run ident ts).toOption

end Criteria.Source
