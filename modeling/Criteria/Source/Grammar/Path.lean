import Criteria.Source.Generics
import Criteria.Source.Grammar.Attribute

/-!
# The grammar of paths

A path is made of segments with double colons between them.  A segment may have
arguments in angle brackets; in expressions a double colon must stand before them.
Arguments are lifetimes, types, constants, and names with a type, a constant or bounds.
-/

namespace Criteria.Source.Grammar

open Criteria.Source.Parser

/-- Whether a path goes on with a segment rather than with the arguments of a
function-like bound. -/
def atSegment (ts : Tokens) : Bool :=
  atOp "::" ts && !atGroup .parenthesis (ts.drop 2)

/-- Whether arguments in angle brackets begin. -/
def atArguments (expressions : Bool) (ts : Tokens) : Bool :=
  (!expressions && atOp "<" ts && !atOp "<=" ts && !atOp "<<=" ts)
    || (atOp "::" ts && atOp "<" (ts.drop 2))

/-- Whether an argument that is a lifetime begins. -/
def atLifetimeArgument (ts : Tokens) : Bool :=
  atLifetime ts && !atOp "+" (skipped ts)

/-- Whether a constant argument begins that is no name. -/
def atConstant (ts : Tokens) : Bool := atLiteral ts || atGroup .brace ts

/-- Whether a list of bounds in angle brackets ends. -/
def endsBounds (ts : Tokens) : Bool := atOp "," ts || atOp ">" ts

/-- Whether angle brackets begin that hold parameters rather than the type in front of
a path. -/
def readsAsParams (ts : Tokens) : Bool :=
  let first := skipped ts
  let second := skipped first
  atOp "<" ts
    && (atOp ">" first || atOp "#" first || atWord "const" first
      || ((atLifetime first || atIdent first)
        && (atOp ">" second || atOp "," second || atColon second || atOp "=" second)))

/-- The arguments of a segment: their tokens, and whether there are any. -/
structure Arguments where
  tokens : Tokens
  filled : Bool

/-- A segment of a path. -/
structure Segment where
  name : String
  arguments : Option Arguments

/-- Whether a segment has arguments between its brackets. -/
def Segment.filled (s : Segment) : Bool := (s.arguments.map Arguments.filled).getD false

/-- The tokens of a segment. -/
def Segment.tokens (s : Segment) : Tokens :=
  .ident s.name :: (s.arguments.map Arguments.tokens).getD []

/-- A path whose segments may have arguments. -/
structure GenericPath where
  leading : Bool
  /-- The segments before the last one. -/
  front : List Segment
  last : Segment

namespace GenericPath

/-- Segments with a double colon after each. -/
def frontTokens (p : GenericPath) : Tokens :=
  p.front.flatMap fun s => s.tokens ++ operatorTokens [':', ':']

/-- The tokens of the path up to the name of its last segment. -/
def stem (p : GenericPath) : Tokens :=
  (if p.leading then operatorTokens [':', ':'] else []) ++ p.frontTokens ++ [.ident p.last.name]

/-- The tokens of the path, those of its last arguments included. -/
def tokens (p : GenericPath) : Tokens :=
  p.stem ++ (p.last.arguments.map Arguments.tokens).getD []

/-- Whether no segment has arguments, not even empty ones. -/
def isPlain (p : GenericPath) : Bool :=
  (p.front ++ [p.last]).all fun s => s.arguments.isNone

/-- Whether the path is one segment. -/
def isName (p : GenericPath) : Bool := !p.leading && p.front.isEmpty

end GenericPath

/-- A path with or without a type in front of it. -/
structure TypedPath where
  qualified : Bool
  path : GenericPath
  tokens : Tokens

/-- Whether a call with a bang may follow the path. -/
def TypedPath.isPlain (p : TypedPath) : Bool := !p.qualified && p.path.isPlain

/-- Whether a bang comes that begins no longer operator. -/
def atBang (ts : Tokens) : Bool := atOp "!" ts && !atOp "!=" ts

variable (inner : Inner)

/-- A constant argument: a literal, a block, or a name. -/
def constant : Parser Tokens := do
  if ← peek atLiteral then return ← literal
  if ← peek atIdent then return ← name
  if ← peek (atGroup .brace) then return ← inner.attributedBlock
  expecting []

/-- Bounds for as long as plus signs follow them. -/
def boundsUntil (ends : Tokens → Bool) : Parser Tokens := do
  let bound : Parser Tokens := do return (← inner (.bound false true)).tokens
  return (← chain ends "+" bound).tokens "+"

/-- What follows the name of an associated type or constant. -/
def associated : Parser Tokens := do
  if ← peek (atOp "=") then
    let equals ← op "="
    if ← peek atConstant then return equals ++ (← constant inner)
    return equals ++ (← inner.type)
  if ← peek (atOp ":") then return ← inOrder [op ":", boundsUntil inner endsBounds]
  return []

/-- An argument, and whether it is a lifetime. -/
def argument : Parser (Bool × Tokens) := do
  if ← peek atLifetimeArgument then return (true, ← lifetime)
  if ← peek atConstant then return (false, ← constant inner)
  let t ← inner (.type true)
  match t.shape with
  | .name => return (false, t.tokens ++ (← associated inner))
  | _ => return (false, t.tokens)

/-- Items in angle brackets, lifetimes first. -/
def angled (items : Listing (Bool × Tokens)) : Tokens :=
  code "<" ++ AngleItem.writeAll (items.map fun ((isLifetime, tokens), comma) =>
    { isLifetime, tokens, comma }) ++ code ">"

/-- Arguments in angle brackets. -/
def arguments : Parser Arguments := do
  let colons ← op? "::"
  let _ ← op "<"
  let items ← listUntil (atOp ">") "," (argument inner)
  let _ ← op ">"
  return { tokens := colons ++ angled items, filled := !items.isEmpty }

/-- A segment of a path with its arguments. -/
def segment (expressions : Bool) : Parser Segment := do
  if ← peek (atAnyOf ["super", "self", "crate", "try"]) then return ⟨← anyIdent, none⟩
  let name ← if ← peek (atWord "Self") then anyIdent else ident
  if ← peek (atArguments expressions) then return ⟨name, some (← arguments inner)⟩
  return ⟨name, none⟩

/-- The path of a first segment and others. -/
def genericPath (leading : Bool) (first : Segment) : List Segment → GenericPath
  | [] => { leading, front := [], last := first }
  | next :: rest =>
    let tail := genericPath leading next rest
    { tail with front := first :: tail.front }

/-- A path. -/
def path (expressions : Bool) : Parser GenericPath := do
  let lead ← op? "::"
  let first ← segment inner expressions
  let rest ← manyWhile atSegment do
    let _ ← op "::"
    segment inner expressions
  return genericPath (!lead.isEmpty) first rest

/-- A path with a type in front of it, or a path by itself. -/
def typedPath (expressions : Bool) : Parser TypedPath := do
  if !(← peek (atOp "<")) then
    let p ← path inner expressions
    return { qualified := false, path := p, tokens := p.tokens }
  let subject ← inOrder [op "<", inner.type, optionally (atWord "as") (do
    let asWord ← word "as"
    return asWord ++ (← path inner false).tokens), op ">"]
  let _ ← op "::"
  let first ← segment inner expressions
  let rest ← manyWhile (atOp "::") do
    let _ ← op "::"
    segment inner expressions
  let p := genericPath true first rest
  return { qualified := true, path := p, tokens := subject ++ p.tokens }

end Criteria.Source.Grammar
