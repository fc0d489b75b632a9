import Criteria.Source.Parser

/-!
# Phrases

Types, patterns, expressions, blocks and declarations occur inside each other.  Each of
them is a phrase, and the rule of a phrase takes the parser of the phrases inside it as
an argument.  A parsed phrase is its tokens in normal form, and what the phrases around
it have to know of it.
-/

namespace Criteria.Source

/-- What is known of a phrase besides its tokens. -/
inductive Shape where
  | plain
  /-- A type that is a path of one segment without a double colon in front. -/
  | name
  /-- A type that is any other path. -/
  | path
  /-- A type that is one bound, with the tokens of the bound outside parentheses. -/
  | bound (bare : Tokens)
  /-- A bound that is a lifetime. -/
  | lifetime
  /-- A bound that lists what is captured. -/
  | capture
  /-- A phrase that is kept as the source wrote it. -/
  | asWritten
  /-- An expression that is a range. -/
  | range
  /-- An expression that compares two others. -/
  | comparison
  /-- An expression that ends with a block and is a statement of its own. -/
  | blockLike
  /-- An expression that is a call with a bang, in braces or not. -/
  | bangCall (braced : Bool)
  /-- A pattern that stands for all that is left. -/
  | rest
  /-- A pattern that is a range with one end. -/
  | halfRange
deriving Repr

/-- A parsed phrase. -/
structure Node where
  tokens : Tokens
  shape : Shape := .plain
  /-- Whether the leftmost operand of an expression is kept as the source wrote it and
  takes no attributes. -/
  fixedHead : Bool := false
deriving Repr

namespace Node

/-- A phrase that is kept as the source wrote it. -/
def asWritten (tokens : Tokens) : Node := { tokens, shape := .asWritten, fixedHead := true }

/-- The phrase with attributes in front, unless it takes none. -/
def withAttributes (attributes : Tokens) (e : Node) : Node :=
  if e.fixedHead then e else { e with tokens := attributes ++ e.tokens }

/-- Whether the phrase is kept as the source wrote it. -/
def isAsWritten (e : Node) : Bool :=
  match e.shape with
  | .asWritten => true
  | _ => false

/-- Whether an expression is a range. -/
def isRange (e : Node) : Bool :=
  match e.shape with
  | .range => true
  | _ => false

/-- Whether an expression compares two others. -/
def isComparison (e : Node) : Bool :=
  match e.shape with
  | .comparison => true
  | _ => false

/-- Whether an expression ends with a block and is a statement of its own. -/
def isBlockLike (e : Node) : Bool :=
  match e.shape with
  | .blockLike => true
  | _ => false

end Node

/-- Whether tokens end with a group in braces. -/
def endsWithBraces (ts : Tokens) : Bool :=
  match ts.getLast? with
  | some (.group .brace _) => true
  | _ => false

/-- How strongly the operators of expressions bind, from loose to tight. -/
inductive Precedence where
  | jump
  | assign
  | range
  | or
  | and
  | binding
  | compare
  | bitOr
  | bitXor
  | bitAnd
  | shift
  | sum
  | product
  | cast
deriving DecidableEq, Repr

/-- The place of a precedence in the order. -/
def Precedence.level : Precedence → Nat
  | jump => 0
  | assign => 1
  | range => 2
  | or => 3
  | and => 4
  | binding => 5
  | compare => 6
  | bitOr => 7
  | bitXor => 8
  | bitAnd => 9
  | shift => 10
  | sum => 11
  | product => 12
  | cast => 13

/-- The phrases that occur inside each other. -/
inductive Phrase where
  /-- A type; a sum of bounds only if `plus`. -/
  | type (plus : Bool)
  /-- A bound; a list of captures or a constant bound only if allowed. -/
  | bound (captures constant : Bool)
  /-- A pattern without alternatives. -/
  | pattern
  /-- An expression; a record in braces only if `records`. -/
  | expression (records : Bool)
  /-- An expression that is over with its first block, if it begins with one. -/
  | early
  /-- An operand of an expression. -/
  | operand (records : Bool)
  /-- What operators that bind at least as strongly as `floor` make of an operand. -/
  | operators (left : Node) (floor : Precedence) (records : Bool)
  /-- Statements in braces, with attributes in front of them only if `attributed`. -/
  | block (attributed : Bool)
  /-- A declaration. -/
  | item
  /-- Named fields in braces. -/
  | fields
  /-- A tree of imported names; a double colon in front of it only if `rooted`. -/
  | useTree (rooted : Bool)

/-- A parser of the phrases inside a phrase. -/
abbrev Inner := Phrase → Parser Node

namespace Inner

open Criteria.Source.Parser

variable (inner : Inner)

/-- The tokens of a type, sums of bounds included. -/
def type : Parser Tokens := do return (← inner (.type true)).tokens

/-- The tokens of a type that is no sum of bounds. -/
def typeWithoutPlus : Parser Tokens := do return (← inner (.type false)).tokens

/-- The tokens of a pattern without alternatives. -/
def pattern : Parser Tokens := do return (← inner .pattern).tokens

/-- The tokens of an expression. -/
def expression : Parser Tokens := do return (← inner (.expression true)).tokens

/-- The tokens of an expression that a block follows. -/
def condition : Parser Tokens := do return (← inner (.expression false)).tokens

/-- The tokens of a block. -/
def block : Parser Tokens := do return (← inner (.block false)).tokens

/-- The tokens of a block that may begin with attributes. -/
def attributedBlock : Parser Tokens := do return (← inner (.block true)).tokens

end Inner

end Criteria.Source
