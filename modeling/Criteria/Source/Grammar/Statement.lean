import Criteria.Source.Grammar.Expression

/-!
# The grammar of statements

A statement declares something, binds names, calls with a bang, or is an expression.  An
expression needs a semicolon unless it is the last statement or ends with a block.
-/

namespace Criteria.Source.Grammar

open Criteria.Source.Parser

/-- A statement, and whether another one may follow it. -/
structure Statement where
  tokens : Tokens
  closed : Bool

/-! ## Looking ahead -/

/-- What is left after a path of plain identifiers, if one begins. -/
def afterPlainPath? (ts : Tokens) : Option Tokens :=
  match plainPath { tokens := ts } with
  | .ok (_, rest) => some rest.tokens
  | .error _ => none

/-- Whether a statement begins that calls with a bang and braces. -/
def atBracedCall (ts : Tokens) : Bool :=
  match afterPlainPath? ts with
  | none => false
  | some rest =>
    let content := skipped rest
    let next := skipped content
    atOp "!" rest && atGroup .brace content && !atDot next && !atOp "?" next

/-- Whether a declaration by a call with a bang begins, which has a name after the
bang. -/
def atNamedCall (ts : Tokens) : Bool :=
  match afterPlainPath? ts with
  | none => false
  | some rest =>
    let name := skipped rest
    atOp "!" rest && (atIdent name || atWord "try" name)

/-- Whether a constant begins that is declared. -/
def atConstantItem (ts : Tokens) : Bool :=
  let next := skipped ts
  atWord "const" ts
    && !(atGroup .brace next || atAnyOf ["static", "move"] next || atOp "|" next
      || (atWord "async" next && !atAnyOf ["unsafe", "extern", "fn"] (skipped next)))

/-- Whether a declaration begins. -/
def atItem (ts : Tokens) : Bool :=
  let next := skipped ts
  atAnyOf ["pub", "extern", "use", "fn", "mod", "type", "struct", "enum", "trait", "impl",
      "macro"] ts
    || (atWord "crate" ts && !atOp "::" next)
    || (atWord "static" ts && (atWord "mut" next || atIdent next))
    || atConstantItem ts
    || (atWord "unsafe" ts && !atGroup .brace next)
    || (atWord "async" ts && atAnyOf ["unsafe", "extern", "fn"] next)
    || (atWord "union" ts && atIdent next)
    || (atWord "auto" ts && atWord "trait" next)
    || (atWord "default" ts && atAnyOf ["unsafe", "impl"] next)
    || atNamedCall ts

variable (inner : Inner)

/-! ## Statements -/

/-- A statement that calls with a bang and braces. -/
def bracedCall : Parser Tokens := do
  let p ← plainPath
  return p.tokens ++ (← inOrder [bangCall, op? ";"])

/-- A statement that binds names. -/
def letStatement : Parser Tokens := do
  let head ← inOrder [word "let", inner.pattern,
    optionally (atOp ":") (inOrder [op ":", inner.type])]
  let value ← optionally (atOp "=") (inOrder [op "=", inner.expression])
  let mayFail := !value.isEmpty && !endsWithBraces value
  let otherwise ← optionally (fun ts => mayFail && atWord "else" ts)
    (inOrder [word "else", inner.block])
  return head ++ value ++ otherwise ++ (← op ";")

/-- A statement that is an expression. -/
def expressionStatement (attributes : Tokens) : Parser Statement := do
  let e ← inner .early
  let semicolon ← op? ";"
  let ended := match e.shape with
    | .bangCall braced => braced
    | _ => e.isBlockLike
  return {
    tokens := (e.withAttributes attributes).tokens ++ semicolon
    closed := ended || !semicolon.isEmpty }

/-- A statement. -/
def statement : Parser Statement := do
  let start ← remaining
  let attributes ← outerAttributes inner
  if ← peek atBracedCall then return { tokens := attributes ++ (← bracedCall), closed := true }
  if ← peek (atWord "let") then
    return { tokens := attributes ++ (← letStatement inner), closed := true }
  if ← peek atItem then
    advanceTo start
    return { tokens := (← inner .item).tokens, closed := true }
  expressionStatement inner attributes

/-- Statements to the end of the tokens, at most `fuel` of them. -/
def statementsAtMost : Nat → Parser Tokens
  | 0 => pure []
  | fuel + 1 => do
    let blank ← manyWhile (atOp ";") (op ";")
    if ← peek List.isEmpty then return blank.flatten
    let first ← statement inner
    let front := blank.flatten ++ first.tokens
    if ← peek List.isEmpty then return front
    if !first.closed then return ← violating "unexpected token, expected `;`"
    return front ++ (← statementsAtMost fuel)

/-- Statements to the end of the tokens. -/
def statements : Parser Tokens := do statementsAtMost inner ((← remaining).length + 1)

/-- Statements in braces, with attributes in front of them only if `attributed`. -/
def block (attributed : Bool) : Parser Tokens :=
  grouped .brace <| inOrder [optionally (fun _ => attributed) (innerAttributes inner),
    statements inner]

end Criteria.Source.Grammar
