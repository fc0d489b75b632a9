import Criteria.Source.Grammar.Type
import Criteria.Source.Literal

/-!
# The grammar of patterns

A pattern may be a sum of alternatives with bars between them; what stands for one of
the alternatives is a pattern without any.  Three dots of a range are given back as two
dots and an equals sign.
-/

namespace Criteria.Source.Grammar

open Criteria.Source.Parser

/-- What may begin a pattern, in words. -/
def patternStarts : List String :=
  ["identifier", "`::`", "`<`", "`_`", "literal", "`const`", "`ref`", "`mut`", "`&`",
    "parentheses", "square brackets", "`..`", "`const`"]

/-- What may end a range of patterns, in words. -/
def rangeEnds : List String :=
  ["literal", "identifier", "`::`", "`<`", "`self`", "`Self`", "`super`", "`crate`", "`const`"]

/-- Whether a pattern begins with a path. -/
def atPatternPath (ts : Tokens) : Bool :=
  (atIdent ts
      && (let next := skipped ts
        atOp "::" next || atOp "!" next || atGroup .brace next || atGroup .parenthesis next
          || atOp ".." next))
    || (atWord "self" ts && atOp "::" (skipped ts))
    || atOp "::" ts || atOp "<" ts || atAnyOf ["Self", "super", "crate"] ts

/-- Whether a bar between alternatives comes. -/
def atBar (ts : Tokens) : Bool := atOp "|" ts && !atOp "||" ts && !atOp "|=" ts

/-- Whether a range of patterns has no upper end. -/
def endsRange (ts : Tokens) : Bool :=
  ts.isEmpty || atOp "|" ts || atOp "=" ts || atColon ts || atOp "," ts || atOp ";" ts
    || atWord "if" ts

/-- The dots of a range, and whether its upper end belongs to it. -/
def patternDots : Parser (Tokens × Bool) := do
  if ← peek (atOp "..=") then return (← op "..=", true)
  if ← peek (atOp "...") then
    let _ ← op "..."
    return (operatorTokens ['.', '.', '='], true)
  if ← peek (atOp "..") then return (← op "..", false)
  expecting ["`..`"]

/-- The dots of a range of expressions, and whether its upper end belongs to it. -/
def rangeDots : Parser (Tokens × Bool) := do
  if ← peek (atOp "..=") then return (← op "..=", true)
  if ← peek (atOp "...") then return ← expecting ["`..=`"]
  if ← peek (atOp "..") then return (← op "..", false)
  expecting ["`..`"]

/-- The name of a member: an identifier, or a number without a suffix. -/
def atMember (ts : Tokens) : Bool :=
  match ts with
  | .literal l :: _ => l.isWhole
  | .punct '-' _ :: .literal l :: _ => l.isWhole
  | _ => atIdent ts

/-- A numbered member. -/
def memberNumber : Parser Tokens := do
  let ts ← remaining
  match ts with
  | .literal l :: rest =>
    match l.whole? with
    | some (n, []) =>
      if 4294967295 < n then return ← refusing "number too large to fit in target type"
      advanceTo rest
      return [.literal ⟨toString n, none⟩]
    | _ => refusing "expected unsuffixed integer"
  | .punct _ _ :: .literal l :: _ =>
    match l.whole? with
    | some (_, []) => refusing "invalid digit found in string"
    | _ => refusing "expected unsuffixed integer"
  | _ => violating "expected identifier or integer"

/-- A member, and whether it has a name. -/
def member : Parser (Tokens × Bool) := do
  if ← peek atIdent then return (← name, true)
  if ← peek atMember then return (← memberNumber, false)
  violating "expected identifier or integer"

variable (inner : Inner)

/-- A pattern with alternatives, possibly after a bar. -/
def alternatives : Parser Node := do
  let lead ← op? "|"
  let first ← inner .pattern
  if lead.isEmpty && !(← peek atBar) then return first
  let more ← manyWhile atBar do
    let bar ← op "|"
    return bar ++ (← inner.pattern)
  return { tokens := lead ++ first.tokens ++ more.flatten }

/-- The tokens of patterns with commas between them to the end of the tokens. -/
def patternList : Parser Tokens :=
  commaTokens do return (← alternatives inner).tokens

/-- An end of a range of patterns, if there is one. -/
def rangeEnd : Parser Tokens := do
  if ← peek endsRange then return []
  if ← peek atLiteral then return ← literal
  if ← peek atPath then return (← typedPath inner true).tokens
  if ← peek (atWord "const") then return ← inOrder [word "const", inner.attributedBlock]
  expecting rangeEnds

/-- A range of patterns after its lower end, which is not empty. -/
def rangeAfter (lower : Tokens) : Parser Node := do
  let (dots, closed) ← patternDots
  let upper ← rangeEnd inner
  if closed && upper.isEmpty then return ← violating "expected range upper bound"
  return { tokens := lower ++ dots ++ upper, shape := if upper.isEmpty then .halfRange else .plain }

/-- A range of patterns without a lower end, or the pattern for all that is left. -/
def rangeUpTo : Parser Node := do
  let (dots, closed) ← rangeDots
  let upper ← rangeEnd inner
  if !upper.isEmpty then return { tokens := dots ++ upper, shape := .halfRange }
  if closed then return ← violating "expected range upper bound"
  return { tokens := dots, shape := .rest }

/-- A literal or a constant block, or a range that begins with one. -/
def constantPattern : Parser Node := do
  let lower ← rangeEnd inner
  if ← peek (atOp "..") then return ← rangeAfter inner lower
  return { tokens := lower }

/-- A name that is bound. -/
def binding : Parser Tokens :=
  inOrder [word? "ref", word? "mut", (do if ← peek (atWord "self") then anyName else name),
    optionally (atOp "@") (inOrder [op "@", inner.pattern])]

/-- A field of a record pattern. -/
def fieldPattern : Parser Tokens := do
  let start ← remaining
  let boxed ← word? "box"
  let marks ← inOrder [word? "ref", word? "mut"]
  if boxed.isEmpty && marks.isEmpty then
    let (m, named) ← member
    if named && !(← peek (atOp ":")) then return m
    return m ++ (← op ":") ++ (← alternatives inner).tokens
  let bound ← name
  if boxed.isEmpty then return marks ++ bound
  writtenSince start

/-- The inside of the braces of a record pattern, at most `fuel` fields. -/
def fieldPatterns : Nat → Parser Tokens
  | 0 => pure []
  | fuel + 1 => do
    if ← peek List.isEmpty then return []
    let attributes ← outerAttributes inner
    if ← peek (atOp "..") then return attributes ++ (← op "..")
    let first ← fieldPattern inner
    if ← peek List.isEmpty then return attributes ++ first
    let comma ← op ","
    return attributes ++ first ++ comma ++ (← fieldPatterns fuel)

/-- A pattern that begins with a path. -/
def pathPattern : Parser Node := do
  let p ← typedPath inner true
  if p.isPlain && (← peek atBang) then return { tokens := p.tokens ++ (← bangCall) }
  if ← peek (atGroup .brace) then
    let fields : Parser Tokens := do fieldPatterns inner ((← remaining).length + 1)
    return { tokens := p.tokens ++ (← grouped .brace fields) }
  if ← peek (atGroup .parenthesis) then
    return { tokens := p.tokens ++ (← grouped .parenthesis (patternList inner)) }
  if ← peek (atOp "..") then return ← rangeAfter inner p.tokens
  return { tokens := p.tokens }

/-- An element of a slice pattern; a range with one end must stand in parentheses. -/
def slicePattern : Parser Tokens := do
  let p ← alternatives inner
  match p.shape with
  | .halfRange =>
    refusing "range pattern is not allowed unparenthesized inside slice pattern"
  | _ => return p.tokens

/-- A pattern without alternatives. -/
def pattern : Parser Node := do
  let start ← remaining
  if ← peek atBuiltin then return ← builtin
  if ← peek atPatternPath then return ← pathPattern inner
  if ← peek (atWord "_") then return { tokens := ← word "_" }
  if ← peek (atWord "box") then
    let _ ← inOrder [word "box", inner.pattern]
    return .asWritten (← writtenSince start)
  if ← peek fun ts => atOp "-" ts || atLiteral ts || atWord "const" ts then
    return ← constantPattern inner
  if ← peek fun ts => atIdent ts || atAnyOf ["ref", "mut", "self"] ts then
    return { tokens := ← binding inner }
  if ← peek (atOp "&") then
    return { tokens := ← inOrder [op "&", word? "mut", inner.pattern] }
  if ← peek (atGroup .parenthesis) then
    return { tokens := ← grouped .parenthesis (patternList inner) }
  if ← peek (atGroup .bracket) then
    return { tokens := ← grouped .bracket (commaTokens (slicePattern inner)) }
  if ← peek fun ts => atOp ".." ts && !atOp "..." ts then return ← rangeUpTo inner
  expecting patternStarts

end Criteria.Source.Grammar
