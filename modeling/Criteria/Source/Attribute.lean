import Criteria.Source.Token

/-!
# Attributes

An attribute is an entry: a path by itself, a path with a group of tokens, or a path
with a value.  The inside of an attribute's group is often a list of entries again.
-/

namespace Criteria.Source

/-- A path of plain identifiers, with or without a double colon in front. -/
structure Path where
  leading : Bool
  segments : List String
deriving DecidableEq, Repr

namespace Path

/-- The identifier that the path consists of, if it is one. -/
def ident? (p : Path) : Option String :=
  match p.leading, p.segments with
  | false, [name] => some name
  | _, _ => none

/-- Whether the path is an identifier. -/
def isIdent (p : Path) (name : String) : Bool :=
  p.ident? == some name

/-- The path with double colons. -/
def text (p : Path) : String :=
  (if p.leading then "::" else "") ++ "::".intercalate p.segments

/-- The tokens of the path, which has no arguments. -/
def tokens (p : Path) : Tokens :=
  (if p.leading then operatorTokens [':', ':'] else [])
    ++ ((p.segments.map fun s => [Token.ident s]).intersperse (operatorTokens [':', ':'])).flatten

end Path

/-- The value of an entry, as far as it is of use: a text or a truth value. -/
inductive EntryValue where
  | text (value : String)
  | bool (value : Bool)
  | other
deriving DecidableEq, Repr

/-- The value that the tokens of an expression are. -/
def EntryValue.ofTokens : Tokens → EntryValue
  | [.literal ⟨_, some s⟩] => .text s
  | [.ident "true"] => .bool true
  | [.ident "false"] => .bool false
  | _ => .other

/-- An entry of an attribute. -/
inductive Entry where
  | path (path : Path)
  | list (path : Path) (tokens : Tokens)
  | nameValue (path : Path) (value : EntryValue)
deriving Repr

namespace Entry

/-- The path of an entry. -/
def name : Entry → Path
  | path p => p
  | list p _ => p
  | nameValue p _ => p

end Entry

/-- An attribute: its entry, and the tokens that it is written with. -/
structure Attribute where
  entry : Entry
  tokens : Tokens
deriving Repr

end Criteria.Source
