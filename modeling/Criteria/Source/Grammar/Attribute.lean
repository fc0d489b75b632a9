import Criteria.Source.Attribute
import Criteria.Source.Phrase

/-!
# The grammar of attributes

An attribute stands after a hash sign in brackets.  With a bang between the two it
belongs to what is around it, without to what comes after it.
-/

namespace Criteria.Source.Grammar

open Criteria.Source.Parser

/-- Whether a segment of a path of plain identifiers may begin. -/
def atPlainSegment (ts : Tokens) : Bool :=
  atIdent ts || atAnyOf ["super", "self", "Self", "crate"] ts

/-- The segments of a path of plain identifiers; at most `fuel` of them. -/
def plainSegments : Nat → Parser (List String)
  | 0 => pure []
  | fuel + 1 => do
    if !(← peek atPlainSegment) then return []
    let first ← anyIdent
    if !(← peek (atOp "::")) then return [first]
    let _ ← op "::"
    let rest ← plainSegments fuel
    if rest.isEmpty then return ← violating "expected path segment after `::`"
    return first :: rest

/-- A path of plain identifiers. -/
def plainPath : Parser Path := do
  let lead ← op? "::"
  let segments ← plainSegments ((← remaining).length + 1)
  if segments.isEmpty then
    let _ ← ident
    violating "expected identifier"
  else return { leading := !lead.isEmpty, segments }

/-- Whether a single literal is all that is left. -/
def isLiteral : Tokens → Bool
  | [.punct c joint, .literal l] => atLiteral [.punct c joint, .literal l]
  | [t] => atLiteral [t]
  | _ => false

variable (inner : Inner)

/-- The expression after an equals sign: a literal at the very end counts as one
whatever its sign. -/
def entryValue : Parser Tokens := do
  if ← peek isLiteral then return ← literal
  if ← peek fun ts => atOp "#" ts && atGroup .bracket (skipped ts) then
    return ← violating "unexpected attribute inside of attribute"
  inner.expression

/-- An entry with its tokens. -/
def entry : Parser Attribute := do
  let path ← if ← peek (atWord "unsafe") then do
      pure { leading := false, segments := [← anyIdent] : Path }
    else plainPath
  match ← remaining with
  | .group d content :: rest =>
    advanceTo rest
    return ⟨.list path content, path.tokens ++ [.group d content]⟩
  | ts =>
    if atOp "=" ts && !atOp "==" ts && !atOp "=>" ts then
      let equals ← op "="
      let value ← entryValue inner
      return ⟨.nameValue path (.ofTokens value), path.tokens ++ equals ++ value⟩
    return ⟨.path path, path.tokens⟩

/-- The attribute in brackets, after the signs before it. -/
def bracketed (signs : Tokens) : Parser Attribute := do
  let content ← group .bracket
  let a ← inside .bracket content (entry inner)
  return ⟨a.entry, signs ++ [brackets a.tokens]⟩

/-- Attributes in front of something. -/
def attributes : Parser (List Attribute) :=
  manyWhile (atOp "#") do bracketed inner (← op "#")

/-- The tokens of attributes in front of something. -/
def outerAttributes : Parser Tokens := do
  return (← attributes inner).flatMap Attribute.tokens

/-- The tokens of attributes of what is around them. -/
def innerAttributes : Parser Tokens := do
  let more (ts : Tokens) : Bool := atOp "#" ts && atOp "!" (skipped ts)
  let all ← manyWhile more do bracketed inner (← inOrder [op "#", op "!"])
  return all.flatMap Attribute.tokens

end Criteria.Source.Grammar
