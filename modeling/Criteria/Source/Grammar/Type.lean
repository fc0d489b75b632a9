import Criteria.Source.Grammar.Generics

/-!
# The grammar of types and bounds

A bound is a lifetime, a list of captures, or a trait, which may be called like a
function.  A type may be a sum of bounds, but only where a plus sign cannot belong to
something else.
-/

namespace Criteria.Source.Grammar

open Criteria.Source.Parser

/-! ## Looking ahead -/

/-- What may begin a type, in words. -/
def typeStarts : List String :=
  ["`for`", "parentheses", "`fn`", "`unsafe`", "`extern`", "identifier", "`::`", "`<`", "`dyn`",
    "square brackets", "`*`", "`&`", "`!`", "`impl`", "`_`", "lifetime"]

/-- What may follow a binder in a type, in words. -/
def binderTypes : List String :=
  ["identifier", "`fn`", "`unsafe`", "`extern`", "`super`", "`self`", "`Self`", "`crate`"]

/-- Whether the type of a function begins. -/
def atFunctionType (ts : Tokens) : Bool := atAnyOf ["fn", "unsafe", "extern"] ts

/-- Whether a path begins, possibly with a type in front of it. -/
def atPath (ts : Tokens) : Bool := atPlainSegment ts || atOp "::" ts || atOp "<" ts

/-- Whether a form that only the compiler defines begins. -/
def atBuiltin (ts : Tokens) : Bool := atWord "builtin" ts && atOp "#" (skipped ts)

/-- Whether a bound may begin after a plus sign. -/
def atBound (ts : Tokens) : Bool :=
  atAnyIdent ts || atOp "::" ts || atOp "?" ts || atLifetime ts || atGroup .parenthesis ts

/-- Whether the arguments of a function-like bound begin. -/
def atCall (ts : Tokens) : Bool :=
  atGroup .parenthesis ts || (atOp "::" ts && atGroup .parenthesis (ts.drop 2))

variable (inner : Inner)

/-- A form that only the compiler defines, which is kept as it is. -/
def builtin : Parser Node := do
  let start ← remaining
  let _ ← inOrder [word "builtin", op "#", name, groupAsIs .parenthesis]
  return .asWritten (← writtenSince start)

/-- The result of a function, if one is given. -/
def result (type : Parser Tokens) : Parser Tokens :=
  optionally (atOp "->") (inOrder [op "->", type])

/-! ## Bounds -/

/-- The arguments and the result of a function-like bound; a double colon in front of
them is dropped. -/
def callArguments : Parser Tokens := do
  let _ ← op? "::"
  inOrder [grouped .parenthesis (commaTokens inner.type), result inner.typeWithoutPlus]

/-- The mark of a bound that holds for constants, and whether it came. -/
def constMark (allowed : Bool) : Parser Bool := do
  if ← peek (atGroup .bracket) then
    let _ ← grouped .bracket (word "const")
    if allowed then return true
    refusing "`[const]` is not allowed here"
  else if ← peek (atWord "const") then
    let _ ← word "const"
    if allowed then return true
    refusing "`const` is not allowed here"
  else return false

/-- A trait with what may stand before and after its path; nothing if it is marked as
one for constants and has to be kept as it is. -/
def traitBound (constant : Bool) : Parser (Option Tokens) := do
  let early ← binder inner
  let marked ← constMark constant
  let maybe ← op? "?"
  let late ← if early.isEmpty && !maybe.isEmpty then binder inner else pure []
  let p ← path inner false
  let name ← if !p.last.filled && (← peek atCall) then
      pure (p.stem ++ (← callArguments inner))
    else pure p.tokens
  if !maybe.isEmpty && !(early ++ late).isEmpty then
    return ← refusing "`for<...>` binder not allowed with `?` trait polarity modifier"
  return if marked then none else some (early ++ maybe ++ name)

/-- A captured parameter, and whether it is a lifetime. -/
def captured : Parser (Bool × Tokens) := do
  if ← peek atLifetime then return (true, ← lifetime)
  if ← peek fun ts => atIdent ts || atWord "Self" ts then return (false, ← anyName)
  expecting ["lifetime", "identifier", "`>`"]

/-- What is captured, in angle brackets. -/
def captures : Parser Tokens := do
  let head ← word "use"
  let _ ← op "<"
  let separated : Parser (Bool × Tokens) := do
    let item ← captured
    if ← peek endsBounds then return item
    expecting ["`,`", "`>`"]
  let items ← listUntil (atOp ">") "," separated
  let _ ← op ">"
  return head ++ angled items

/-- A bound. -/
def bound (captureLists constant : Bool) : Parser Node := do
  if ← peek atLifetime then return { tokens := ← lifetime, shape := .lifetime }
  if ← peek (atWord "use") then
    let list ← captures
    if captureLists then return { tokens := list, shape := .capture }
    return ← refusing "`use<...>` precise capturing syntax is not allowed here"
  let start ← remaining
  if ← peek (atGroup .parenthesis) then
    let content ← group .parenthesis
    match ← inside .parenthesis content (traitBound inner constant) with
    | some trait => return { tokens := [parens trait] }
    | none => return .asWritten (← writtenSince start)
  match ← traitBound inner constant with
  | some trait => return { tokens := trait }
  | none => return .asWritten (← writtenSince start)

/-- Bounds with plus signs between them, at most `fuel` of them. -/
def boundsAtMost (captureLists constant : Bool) : Nat → Parser (Listing Node)
  | 0 => pure []
  | fuel + 1 => do
    let first ← inner (.bound captureLists constant)
    if !(← peek (atOp "+")) then return [(first, false)]
    let _ ← op "+"
    let more ← peek fun ts =>
      atBound ts || (constant && (atGroup .bracket ts || atWord "const" ts))
    if !more then return [(first, true)]
    return (first, true) :: (← boundsAtMost captureLists constant fuel)

/-- Bounds with plus signs between them, only one unless `plus`. -/
def bounds (plus captureLists constant : Bool) : Parser (Listing Node) := do
  if plus then boundsAtMost inner captureLists constant ((← remaining).length + 1)
  else return [(← inner (.bound captureLists constant), false)]

/-- The tokens of bounds. -/
def boundTokens (bs : Listing Node) : Tokens :=
  Listing.tokens "+" (bs.map fun (b, more) => (b.tokens, more))

/-- Whether a bound is a trait. -/
def isTrait (b : Node) : Bool :=
  match b.shape with
  | .lifetime | .capture => false
  | _ => true

/-- The bounds of an object, one of which is a trait. -/
def object (plus : Bool) : Parser Tokens := do
  let bs ← bounds inner plus false false
  if bs.any fun b => isTrait b.1 then return boundTokens bs
  refusing "at least one trait is required for an object type"

/-- The bounds of a type that is known by them, one of which is a trait. -/
def abstractBounds (plus : Bool) : Parser Tokens := do
  let bs ← bounds inner plus true true
  if bs.any fun b => isTrait b.1 then return boundTokens bs
  refusing "at least one trait must be specified"

/-- Further bounds, each after a plus sign. -/
def furtherBounds : Parser Tokens := do
  let all ← manyWhile (atOp "+") do
    let plus ← op "+"
    return plus ++ (← inner (.bound false false)).tokens
  return all.flatten

/-- Further bounds, each after a plus sign; the last plus sign may stand alone. -/
def trailingBounds : Parser Tokens := do
  let all ← manyWhile (atOp "+") do
    let plus ← op "+"
    if !(← peek atBound) then return plus
    return plus ++ (← inner (.bound false false)).tokens
  return all.flatten

/-! ## Functions -/

/-- The calling convention of a function, if it is given. -/
def convention : Parser Tokens := do
  let head ← word? "extern"
  if head.isEmpty then return []
  if ← peek atText then return head ++ (← literal)
  return head

/-- Whether an input of a function type begins with its name. -/
def atNamedInput (first : Bool) (ts : Tokens) : Bool :=
  (atIdent ts || atWord "_" ts || (first && atWord "self" ts)) && atColon (skipped ts)

/-- The input that stands for the receiver and may be changed, kept as it is. -/
def mutableSelf : Parser Tokens := do
  let start ← remaining
  let _ ← inOrder [word "mut", word "self", optionally atColon (inOrder [op ":", inner.type])]
  writtenSince start

/-- An input of a function type; only the first one may be the receiver. -/
def functionInput (first : Bool) : Parser Tokens := do
  if first && (← peek fun ts => atWord "mut" ts && atWord "self" (skipped ts)) then
    return ← mutableSelf inner
  if ← peek (atNamedInput first) then return ← inOrder [anyName, op ":", inner.type]
  inner.type

/-- Whether the mark of further inputs begins, possibly after a name. -/
def atVariadic (ts : Tokens) : Bool :=
  atOp "..." ts
    || ((atIdent ts || atWord "_" ts) && atOp ":" (skipped ts) && atOp "..." (skipped (skipped ts)))

/-- The inputs of a function type, at most `fuel` of them. -/
def functionInputs (first : Bool) : Nat → Parser Tokens
  | 0 => pure []
  | fuel + 1 => do
    if ← peek List.isEmpty then return []
    let attributes ← outerAttributes inner
    if ← peek atVariadic then
      let named ← optionally atAnyIdent (inOrder [anyName, op ":"])
      return attributes ++ named ++ (← inOrder [op "...", op? ","])
    let input ← functionInput inner first
    if ← peek List.isEmpty then return attributes ++ input
    let comma ← op ","
    return attributes ++ input ++ comma ++ (← functionInputs false fuel)

/-- The type of a function. -/
def functionType : Parser Tokens := do
  let inputs : Parser Tokens := do functionInputs inner true ((← remaining).length + 1)
  inOrder [word? "unsafe", convention, word "fn", grouped .parenthesis inputs,
    result inner.typeWithoutPlus]

/-! ## Types -/

/-- A call with a bang, after its path. -/
def bangCall : Parser Tokens := inOrder [op "!", anyGroup]

/-- A type that begins with a path: the path, a call with a bang, or a sum of bounds.  A
binder in front makes it a bound, but is dropped before a call. -/
def pathType (binding : Tokens) (plus : Bool) : Parser Node := do
  let p ← typedPath inner false
  if p.qualified then return { tokens := p.tokens }
  if p.isPlain && (← peek atBang) then return { tokens := p.tokens ++ (← bangCall) }
  let more ← if plus then trailingBounds inner else pure []
  let tokens := binding ++ p.tokens ++ more
  if !more.isEmpty then return { tokens }
  if !binding.isEmpty then return { tokens, shape := .bound tokens }
  return { tokens, shape := if p.path.isName then .name else .path }

/-- The first type in parentheses, with the others if it is followed by a comma. -/
def tupleInside : Parser (Node × Option Tokens) := do
  let first ← inner (.type true)
  if !(← peek (atOp ",")) then return (first, none)
  let comma ← op ","
  return (first, some (comma ++ (← commaTokens inner.type)))

/-- The tokens of a type in parentheses that may begin a sum of bounds. -/
def bareBound? (t : Node) : Option Tokens :=
  match t.shape with
  | .name | .path => some t.tokens
  | .bound bare => some bare
  | _ => none

/-- A type that begins with parentheses: a tuple, a type in parentheses, or a sum of
bounds. -/
def parenthesized (plus : Bool) : Parser Node := do
  let content ← group .parenthesis
  if content.isEmpty then return { tokens := [parens []] }
  if atLifetime content then
    return { tokens := [parens (← inside .parenthesis content (object inner true))] }
  if atOp "?" content then
    let bare := (← inside .parenthesis content (traitBound inner false)).getD []
    let more ← furtherBounds inner
    return {
      tokens := parens bare :: more
      shape := if more.isEmpty then .bound bare else .plain }
  match ← inside .parenthesis content (tupleInside inner) with
  | (first, some others) => return { tokens := [parens (first.tokens ++ others)] }
  | (first, none) =>
    let sums ← if plus then peek (atOp "+") else pure false
    match sums, bareBound? first with
    | true, some bare => return { tokens := parens bare :: (← furtherBounds inner) }
    | _, _ => return { tokens := [parens first.tokens] }

/-- The inside of the brackets of an array or a slice. -/
def arrayInside : Parser Tokens :=
  inOrder [inner.type, optionally (atOp ";") (inOrder [op ";", inner.expression])]

/-- A pointer. -/
def pointer : Parser Tokens := do
  let star ← op "*"
  if !(← peek (atAnyOf ["const", "mut"])) then return ← expecting ["`const`", "`mut`"]
  return star ++ (← inOrder [anyName, inner.typeWithoutPlus])

/-- A type; a sum of bounds only if `plus`. -/
def type (plus : Bool) : Parser Node := do
  let start ← remaining
  let binding ← binder inner
  if !binding.isEmpty
      && !(← peek fun ts => atPlainSegment ts || atFunctionType ts) then
    return ← expecting binderTypes
  if ← peek (atGroup .parenthesis) then return ← parenthesized inner plus
  if ← peek atFunctionType then return { tokens := binding ++ (← functionType inner) }
  if ← peek atBuiltin then
    let _ ← builtin
    return .asWritten (← writtenSince start)
  if ← peek atPath then return ← pathType inner binding plus
  if ← peek (atWord "dyn") then
    let head ← word "dyn"
    let star ← op? "*"
    let bs ← object inner plus
    if star.isEmpty then return { tokens := head ++ bs }
    return .asWritten (← writtenSince start)
  if ← peek (atGroup .bracket) then
    return { tokens := ← grouped .bracket (arrayInside inner) }
  if ← peek (atOp "*") then return { tokens := ← pointer inner }
  if ← peek (atOp "&") then
    return { tokens := ← inOrder [op "&", lifetime?, word? "mut", inner.typeWithoutPlus] }
  if ← peek (atOp "!") then return { tokens := ← op "!" }
  if ← peek (atWord "impl") then
    let head ← word "impl"
    return { tokens := head ++ (← abstractBounds inner plus) }
  if ← peek (atWord "_") then return { tokens := ← word "_" }
  if ← peek atLifetime then return { tokens := ← object inner true }
  expecting typeStarts

end Criteria.Source.Grammar
