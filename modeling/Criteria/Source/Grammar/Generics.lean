import Criteria.Source.Grammar.Path

/-!
# The grammar of generic parameters

A parameter is a lifetime, a type or a constant, with bounds and a default.  Parameters
stand behind the name of a declaration or, after `for`, in front of a bound.  Conditions
on them follow the word `where`.
-/

namespace Criteria.Source.Grammar

open Criteria.Source.Parser

variable (inner : Inner)

/-! ## Parameters -/

/-- Bounds after a colon; nothing if there are none. -/
def colonBounds (bounds : Parser Tokens) : Parser Tokens := do
  if !(← peek (atOp ":")) then return []
  let colon ← op ":"
  let all ← bounds
  return if all.isEmpty then [] else colon ++ all

/-- Lifetimes with plus signs between them, up to tokens that end them. -/
def lifetimeBounds (ends : Tokens → Bool) : Parser Tokens := do
  return (← chain ends "+" lifetime).tokens "+"

/-- A lifetime as a parameter. -/
def lifetimeParam (attributes : Tokens) : Parser Param := do
  let name ← lifetime
  let bounds ← colonBounds (lifetimeBounds fun ts => ts.isEmpty || endsBounds ts)
  return { isLifetime := true, name, declared := attributes ++ name ++ bounds, default := [] }

/-- A type as a parameter. -/
def typeParam (attributes : Tokens) : Parser Param := do
  let name ← name
  let bounds ← colonBounds (boundsUntil inner fun ts => endsBounds ts || atOp "=" ts)
  let default ← optionally (atOp "=") (inOrder [op "=", inner.type])
  return { isLifetime := false, name, declared := attributes ++ name ++ bounds, default }

/-- A constant as a parameter. -/
def constParam (attributes : Tokens) : Parser Param := do
  let head ← word "const"
  let name ← name
  let type ← inOrder [op ":", inner.type]
  let default ← optionally (atOp "=") (inOrder [op "=", constant inner])
  return { isLifetime := false, name, declared := attributes ++ head ++ name ++ type, default }

/-- A parameter of a declaration, which may be without a name. -/
def declaredParam : Parser Param := do
  let attributes ← outerAttributes inner
  if ← peek atLifetime then return ← lifetimeParam attributes
  if ← peek atIdent then return ← typeParam inner attributes
  if ← peek (atWord "const") then return ← constParam inner attributes
  if ← peek (atWord "_") then
    let name ← anyName
    return { isLifetime := false, name, declared := attributes ++ name, default := [] }
  expecting ["lifetime", "identifier", "`const`"]

/-- A parameter of a binder. -/
def boundParam : Parser Param := do
  let attributes ← outerAttributes inner
  if ← peek atIdent then return ← typeParam inner attributes
  if ← peek atLifetime then return ← lifetimeParam attributes
  if ← peek (atWord "const") then return ← constParam inner attributes
  expecting ["identifier", "lifetime", "`const`"]

/-- Parameters after `for`, in angle brackets, if they come. -/
def binder : Parser Tokens :=
  optionally (atWord "for") do
    let head ← inOrder [word "for", op "<"]
    let params ← listUntil (atOp ">") "," (boundParam inner)
    let closing ← op ">"
    let written := params.map fun (p, comma) => (p.tokens, comma)
    return head ++ Listing.tokens "," written ++ closing

/-- Parameters in angle brackets, if they come; conditions on them may be elsewhere. -/
def params : Parser Generics := do
  if !(← peek (atOp "<")) then
    return { bracketed := false, params := [], conditioned := false, conditions := [] }
  let _ ← op "<"
  let all ← listUntil (atOp ">") "," (declaredParam inner)
  let _ ← op ">"
  return { bracketed := true, params := all, conditioned := false, conditions := [] }

/-! ## Conditions -/

/-- Whether conditions, or the bounds of one, are over. -/
def endsConditions (ts : Tokens) : Bool :=
  ts.isEmpty || atGroup .brace ts || atOp "," ts || atOp ";" ts || atColon ts || atOp "=" ts

/-- A condition on parameters. -/
def condition : Parser Tokens := do
  if ← peek fun ts => atLifetime ts && atOp ":" (skipped ts) then
    let ends (ts : Tokens) : Bool := endsConditions ts || atOp ":" ts
    return ← inOrder [lifetime, op ":", lifetimeBounds ends]
  inOrder [binder inner, inner.type, op ":", boundsUntil inner endsConditions]

/-- The conditions on parameters, if they come. -/
def conditions (g : Generics) : Parser Generics := do
  if !(← peek (atWord "where")) then return g
  let head ← word "where"
  if ← peek readsAsParams then
    return ← violating "generic parameters on `where` clauses are reserved for future use"
  let all ← chain endsConditions "," (condition inner)
  return { g with
    conditioned := true
    conditions := if all.isEmpty then [] else head ++ all.tokens "," }

end Criteria.Source.Grammar
