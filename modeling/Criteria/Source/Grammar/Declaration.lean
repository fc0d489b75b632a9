import Criteria.Source.Grammar.Type
import Criteria.Source.Item

/-!
# The grammar of declarations of types

A record has named fields in braces, fields without names in parentheses, or none; an
enumeration has variants, each with fields of its own.  A field that has an underscore
for a name may have the fields of a nested record in place of a type.
-/

namespace Criteria.Source.Grammar

open Criteria.Source.Parser

variable (inner : Inner)

/-- The visibility of something. -/
def visibility : Parser Tokens := do
  if !(← peek (atWord "pub")) then return []
  let head ← word "pub"
  match ← remaining with
  | .group .parenthesis [.ident scope] :: rest =>
    if ["crate", "self", "super"].all (· != scope) then return head
    advanceTo rest
    return head ++ [parens [.ident scope]]
  | .group .parenthesis (.ident "in" :: scope) :: rest =>
    let p ← inside .parenthesis scope plainPath
    advanceTo rest
    return head ++ [parens (.ident "in" :: p.tokens)]
  | _ => return head

/-! ## Fields -/

/-- What follows the colon of a field. -/
def fieldType (unnamed : Bool) : Parser Tokens := do
  let nested ← peek fun ts =>
    atWord "struct" ts || (atWord "union" ts && atGroup .brace (skipped ts))
  if !(unnamed && nested) then return ← inner.type
  let start ← remaining
  let _ ← anyIdent
  let _ ← inner .fields
  writtenSince start

/-- A named field, and its tokens. -/
def namedField : Parser (Field × Tokens) := do
  let attributes ← attributes inner
  let scope ← visibility
  let unnamed ← peek (atWord "_")
  let name ← if unnamed then anyIdent else ident
  let colon ← op ":"
  let type ← fieldType inner unnamed
  return ({ attributes, name, type },
    attributes.flatMap Attribute.tokens ++ scope ++ .ident name :: colon ++ type)

/-- Named fields in braces, and their tokens. -/
def namedFields : Parser (List Field × Tokens) := do
  let content ← group .brace
  let fields ← inside .brace content (commaSeparated (namedField inner))
  let written := fields.map fun ((_, tokens), comma) => (tokens, comma)
  return (fields.map fun (f, _) => f.1, [braces (Listing.tokens "," written)])

/-- Fields without names, in parentheses. -/
def unnamedFields : Parser Tokens :=
  grouped .parenthesis (commaTokens (inOrder [outerAttributes inner, visibility, inner.type]))

/-! ## Declarations after their visibility -/

/-- A declaration after its visibility, and its tokens. -/
structure Declared where
  name : String
  generics : Generics
  data : Data
  tokens : Tokens

/-- The declaration of a record. -/
def structItem : Parser Declared := do
  let head ← word "struct"
  let name ← ident
  let params ← params inner
  let front := head ++ .ident name :: params.tokens
  let before ← conditions inner params
  if !before.conditioned && (← peek (atGroup .parenthesis)) then
    let fields ← unnamedFields inner
    let after ← conditions inner params
    if !(← peek (atOp ";")) then
      return ← expecting (if after.conditioned then ["`;`"] else ["`where`", "`;`"])
    let tokens := front ++ fields ++ after.conditions ++ (← op ";")
    return { name, generics := after, data := .tuple, tokens }
  if ← peek (atGroup .brace) then
    let (fields, written) ← namedFields inner
    let tokens := front ++ before.conditions ++ written
    return { name, generics := before, data := .record fields, tokens }
  if ← peek (atOp ";") then
    let tokens := front ++ before.conditions ++ (← op ";")
    return { name, generics := before, data := .unit, tokens }
  expecting (if before.conditioned then ["curly braces", "`;`"]
    else ["`where`", "parentheses", "curly braces", "`;`"])

/-- A variant of an enumeration.  Its visibility is dropped. -/
def variant : Parser Tokens := do
  let attributes ← outerAttributes inner
  let _ ← visibility
  let name ← name
  let fields ← if ← peek (atGroup .brace) then do pure (← namedFields inner).2
    else optionally (atGroup .parenthesis) (unnamedFields inner)
  let value ← optionally (atOp "=") (inOrder [op "=", inner.expression])
  return attributes ++ name ++ fields ++ value

/-- The declaration of an enumeration. -/
def enumItem : Parser Declared := do
  let head ← word "enum"
  let name ← ident
  let params ← params inner
  let generics ← conditions inner params
  let variants ← grouped .brace (commaTokens (variant inner))
  let tokens := head ++ .ident name :: params.tokens ++ generics.conditions ++ variants
  return { name, generics, data := .enum, tokens }

/-- The declaration of a union. -/
def unionItem : Parser Declared := do
  let head ← word "union"
  let name ← ident
  let params ← params inner
  let generics ← conditions inner params
  let (_, fields) ← namedFields inner
  let tokens := head ++ .ident name :: params.tokens ++ generics.conditions ++ fields
  return { name, generics, data := .union, tokens }

/-- A struct, an enum or a union, with its attributes and visibility. -/
def typeDeclaration : Parser Item := do
  let attributes ← attributes inner
  let _ ← visibility
  let declared ← if ← peek (atWord "struct") then structItem inner
    else if ← peek (atWord "enum") then enumItem inner
    else if ← peek (atWord "union") then unionItem inner
    else expecting ["`struct`", "`enum`", "`union`"]
  return {
    attributes, name := declared.name, generics := declared.generics, data := declared.data }

end Criteria.Source.Grammar
