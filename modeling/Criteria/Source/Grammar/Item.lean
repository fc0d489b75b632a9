import Criteria.Source.Grammar.Declaration
import Criteria.Source.Grammar.Function
import Criteria.Source.Grammar.Pattern

/-!
# The grammar of declarations

What may be declared in a module, in a trait, for a type, and by other languages.  A
declaration that no program may contain, such as a function without a body, is kept as
the source wrote it; its rule gives nothing.
-/

namespace Criteria.Source.Grammar

open Criteria.Source.Parser

/-- Whether the path of a call with a bang begins that declares something. -/
def atCallPath (ts : Tokens) : Bool :=
  atIdent ts || atAnyOf ["self", "super", "crate"] ts || atOp "::" ts

/-- What should have come when no declaration begins, in words. -/
def missingItem (words : List String) (calls : Bool) (ts : Tokens) : List String :=
  ((words.filter fun w => !atWord w ts).map fun w => "`" ++ w ++ "`")
    ++ (if calls then ["identifier", "`self`", "`super`", "`crate`", "`::`"] else [])

variable (inner : Inner)

/-- Bounds with plus signs between them, which have to go on to tokens that end them. -/
def boundsBefore (ends : Tokens → Bool) : Parser Tokens := do
  let bound : Parser Tokens := do return (← inner (.bound false true)).tokens
  return (← listUntil ends "+" bound).tokens "+"

/-- The body of a function. -/
def body : Parser Tokens := inner.attributedBlock

/-- Declarations in braces, possibly after attributes. -/
def itemsInBraces (item : Parser Tokens) : Parser Tokens :=
  grouped .brace do
    let attributes ← innerAttributes inner
    return attributes ++ (← manyWhile (!·.isEmpty) item).flatten

/-- A declaration by a call with a bang, inside another declaration. -/
def itemCall : Parser Tokens := do
  let p ← plainPath
  let call ← bangCall
  return p.tokens ++ call ++ (← optionally (fun _ => !endsWithBraces call) (op ";"))

/-- An item of another declaration: what its rule gives after attributes and visibility,
or all of it as the source wrote it. -/
def itemWith (rule : Tokens → Parser (Option Tokens)) : Parser Tokens := do
  let start ← remaining
  let attributes ← outerAttributes inner
  let scope ← visibility
  match ← rule scope with
  | some tokens => return attributes ++ scope ++ tokens
  | none => writtenSince start

/-! ## Constants and types -/

/-- The declaration of a constant, and whether it is without parameters and conditions
and has a value. -/
def constItem : Parser (Tokens × Bool × Bool) := do
  let head ← word "const"
  if !(← peek fun ts => atIdent ts || atWord "_" ts) then
    return ← expecting ["identifier", "`_`"]
  let name ← anyName
  let params ← params inner
  let type ← inOrder [op ":", inner.type]
  let value ← optionally (atOp "=") (inOrder [op "=", inner.expression])
  let generics ← conditions inner params
  return (head ++ name ++ type ++ value ++ (← op ";"), generics.isAbsent, !value.isEmpty)

/-- The declaration of a static variable; one without a type or a value is kept. -/
def staticItem : Parser (Option Tokens) := do
  let head ← inOrder [word "static", word? "mut", name]
  if ← peek (atOp "=") then
    let _ ← inOrder [op "=", inner.expression, op ";"]
    return none
  let type ← inOrder [op ":", inner.type]
  if ← peek (atOp ";") then
    let _ ← op ";"
    return none
  return some (head ++ type ++ (← inOrder [op "=", inner.expression, op ";"]))

/-- The declaration of a name for a type. -/
structure TypeItem where
  /-- The tokens up to the parameters. -/
  head : Tokens
  /-- Whether a colon follows, even if no bounds do. -/
  colon : Bool
  bounds : Tokens
  /-- What the name stands for, with the equals sign. -/
  definition : Tokens
  conditions : Tokens

/-- The declaration of a name for a type, with conditions before or after what it stands
for, as allowed. -/
def typeItem (before after : Bool) : Parser TypeItem := do
  let head ← inOrder [word "type", name]
  let params ← params inner
  let ends (ts : Tokens) : Bool := atWord "where" ts || atOp "=" ts || atOp ";" ts
  let colon ← op? ":"
  let bounds ← optionally (fun _ => !colon.isEmpty) (boundsBefore inner ends)
  let early ← if before then conditions inner params else pure params
  let definition ← optionally (atOp "=") (inOrder [op "=", inner.type])
  let generics ← if after && !early.conditioned then conditions inner params else pure early
  let _ ← op ";"
  return {
    head := head ++ params.tokens, colon := !colon.isEmpty
    bounds := if bounds.isEmpty then [] else colon ++ bounds
    definition, conditions := generics.conditions }

/-! ## Imports -/

/-- A name under which something is imported. -/
def importedName : Parser Tokens := do
  if ← peek fun ts => atIdent ts || atWord "_" ts then return ← anyName
  violating "expected identifier or underscore"

/-- What may begin a tree of imported names, in words. -/
def importStarts : List String :=
  ["identifier", "`self`", "`super`", "`crate`", "`try`", "`*`", "curly braces"]

/-- The trees in a group, at most `fuel` of them, and whether one of them begins with a
double colon. -/
def importGroup (rooted : Bool) : Nat → Parser (Tokens × Bool)
  | 0 => pure ([], false)
  | fuel + 1 => do
    if ← peek List.isEmpty then return ([], false)
    let root ← optionally (fun ts => rooted && atOp "::" ts) (op "::")
    let tree ← inner (.useTree (rooted && root.isEmpty))
    let kept := !root.isEmpty || tree.isAsWritten
    if ← peek List.isEmpty then return (tree.tokens, kept)
    let comma ← op ","
    let (rest, restKept) ← importGroup rooted fuel
    return (tree.tokens ++ comma ++ rest, kept || restKept)

/-- A tree of imported names; one with a double colon inside a group is kept as it is. -/
def useTree (rooted : Bool) : Parser Node := do
  let start ← remaining
  if ← peek fun ts => atIdent ts || atAnyOf ["self", "super", "crate", "try"] ts then
    let head ← anyName
    if ← peek (atOp "::") then
      let colons ← op "::"
      return { tokens := head ++ colons ++ (← inner (.useTree false)).tokens }
    return { tokens := head ++ (← optionally (atWord "as") (inOrder [word "as", importedName])) }
  if ← peek (atOp "*") then return { tokens := ← op "*" }
  if !(← peek (atGroup .brace)) then return ← expecting importStarts
  let content ← group .brace
  let (trees, kept) ← inside .brace content do
    importGroup inner rooted ((← remaining).length + 1)
  if kept then return .asWritten (← writtenSince start)
  return { tokens := [braces trees] }

/-- An import. -/
def useItem : Parser (Option Tokens) := do
  let head ← word "use"
  let colons ← op? "::"
  let tree ← inner (.useTree colons.isEmpty)
  let semicolon ← op ";"
  return if tree.isAsWritten then none else some (head ++ colons ++ tree.tokens ++ semicolon)

/-! ## Other languages -/

/-- The declaration of a function of another language; one that has a body or is marked
as safe is kept. -/
def foreignFunction : Parser (Option Tokens) := do
  let (head, safe) ← signature inner true
  if ← peek (atGroup .brace) then
    let _ ← body inner
    return none
  let semicolon ← op ";"
  return if safe then none else some (head ++ semicolon)

/-- The declaration of a variable of another language; one that has a value or a mark is
kept. -/
def foreignStatic : Parser (Option Tokens) := do
  let mark ← optionally (atAnyOf ["unsafe", "safe"]) anyName
  let head ← inOrder [word "static", word? "mut", name, op ":", inner.type]
  let value ← optionally (atOp "=") (inOrder [op "=", inner.expression])
  let semicolon ← op ";"
  return if mark.isEmpty && value.isEmpty then some (head ++ semicolon) else none

/-- A declaration of something of another language. -/
def foreignItem : Parser Tokens :=
  itemWith inner fun scope => do
    let ts ← remaining
    if atSignature true ts then return ← foreignFunction inner
    if atWord "static" ts
        || (atAnyOf ["unsafe", "safe"] ts && atWord "static" (skipped ts)) then
      return ← foreignStatic inner
    if atWord "type" ts then
      let t ← typeItem inner true true
      return if t.colon || !t.definition.isEmpty then none
        else some (t.head ++ t.conditions ++ code ";")
    if scope.isEmpty && atCallPath ts then return some (← itemCall)
    expecting (missingItem ["fn", "static", "type"] scope.isEmpty ts)

/-- Declarations of things of another language. -/
def foreignItems : Parser Tokens :=
  inOrder [word? "unsafe", convention, itemsInBraces inner (foreignItem inner)]

/-- The declaration of a crate. -/
def externCrate : Parser Tokens := do
  let head ← inOrder [word "extern", word "crate"]
  let name ← if ← peek (atWord "self") then anyName else name
  let renamed : Parser Tokens := do if ← peek (atWord "_") then anyName else Parser.name
  return head ++ name ++ (← inOrder [optionally (atWord "as") (inOrder [word "as", renamed]),
    op ";"])

/-- A declaration that begins with `extern` and is no function. -/
def externItem (scope : Tokens) : Parser Tokens := do
  let next := skipped (← remaining)
  if atWord "crate" next then return ← externCrate
  let named := atText next
  if !atGroup .brace (if named then skipped next else next) then
    let _ ← convention
    return ← expecting (if named then ["curly braces"]
      else ["`crate`", "curly braces", "string literal"])
  if !scope.isEmpty then return ← refusing "expected `extern`"
  foreignItems inner

/-! ## Traits -/

/-- A function of a trait. -/
def traitFunction : Parser Tokens := do
  let (head, _) ← signature inner false
  if ← peek (atGroup .brace) then return head ++ (← body inner)
  if ← peek (atOp ";") then return head ++ (← op ";")
  expecting ["curly braces", "`;`"]

/-- A constant of a trait; one with parameters or conditions is kept. -/
def traitConst : Parser (Option Tokens) := do
  let next := skipped (← remaining)
  if atAnyOf ["async", "unsafe", "extern", "fn"] next then return some (← traitFunction inner)
  if !atIdent next && !atWord "_" next then
    let _ ← word "const"
    return ← expecting ["identifier", "`_`", "`async`", "`unsafe`", "`extern`", "`fn`"]
  let (tokens, plain, _) ← constItem inner
  return if plain then some tokens else none

/-- An item of a trait; one with a visibility or a mark for defaults is kept. -/
def traitItem : Parser Tokens :=
  itemWith inner fun scope => do
    let default ← word? "default"
    let ts ← remaining
    let marked := !scope.isEmpty || !default.isEmpty
    let unmarked (tokens : Tokens) : Option Tokens := if marked then none else some tokens
    if atSignature false ts then return unmarked (← traitFunction inner)
    if atWord "const" ts then return (← traitConst inner).bind unmarked
    if atWord "type" ts then
      let t ← typeItem inner false true
      return unmarked (t.head ++ t.bounds ++ t.definition ++ t.conditions ++ code ";")
    if !marked && atCallPath ts then return some (← itemCall)
    expecting (missingItem ["fn", "const", "type"] (!marked) ts)

/-- The declaration of a trait after its parameters. -/
def restOfTrait (params : Generics) : Parser Tokens := do
  let ends (ts : Tokens) : Bool := atWord "where" ts || atGroup .brace ts
  let colon ← op? ":"
  let bounds ← optionally (fun _ => !colon.isEmpty) (boundsBefore inner ends)
  let generics ← conditions inner params
  let items ← itemsInBraces inner (traitItem inner)
  return (if bounds.isEmpty then [] else colon ++ bounds) ++ generics.conditions ++ items

/-- The other name of a sum of traits, after its parameters. -/
def restOfAlias (params : Generics) : Parser Tokens := do
  let ends (ts : Tokens) : Bool := atWord "where" ts || atOp ";" ts
  let bounds ← inOrder [op "=", boundsBefore inner ends]
  let generics ← conditions inner params
  return bounds ++ generics.conditions ++ (← op ";")

/-- The declaration of a trait, or of another name for a sum of traits. -/
def traitDeclaration : Parser Tokens := do
  let marks ← inOrder [word? "unsafe", word? "auto"]
  let head ← inOrder [word "trait", name]
  let params ← params inner
  let front := marks ++ head ++ params.tokens
  let isTrait ← peek fun ts => atGroup .brace ts || atOp ":" ts || atWord "where" ts
  if !marks.isEmpty || isTrait then
    return front ++ (← restOfTrait inner params)
  if ← peek (atOp "=") then return front ++ (← restOfAlias inner params)
  expecting ["curly braces", "`:`", "`where`", "`=`"]

/-! ## Implementations -/

/-- An item of an implementation. -/
def implItem : Parser Tokens :=
  itemWith inner fun scope => do
    let default ← optionally (fun ts => atWord "default" ts && !atOp "!" (skipped ts))
      (word "default")
    let ts ← remaining
    if atSignature false ts then
      let (head, _) ← signature inner false
      if ← peek (atOp ";") then
        let _ ← op ";"
        return none
      return some (default ++ head ++ (← body inner))
    if atWord "const" ts then
      let (tokens, plain, valued) ← constItem inner
      return if plain && valued then some (default ++ tokens) else none
    if atWord "type" ts then
      let t ← typeItem inner false true
      return if t.colon || t.definition.isEmpty then none
        else some (default ++ t.head ++ t.definition ++ t.conditions ++ code ";")
    let calls := scope.isEmpty && default.isEmpty
    if calls && atCallPath ts then return some (← itemCall)
    let words := ["fn", "const", "type"]
    expecting (missingItem (if default.isEmpty then "default" :: words else words) calls ts)

/-- What an implementation is for, and whether it is a path that is implemented. -/
def implSubject : Parser (Tokens × Bool) := do
  let negative ← optionally (fun ts => atOp "!" ts && !atGroup .brace (skipped ts)) (op "!")
  let first ← inner (.type true)
  if ← peek (atWord "for") then
    let rest ← inOrder [word "for", inner.type]
    let isPath := match first.shape with
      | .name | .path => true
      | _ => false
    return (negative ++ first.tokens ++ rest, isPath)
  if !negative.isEmpty then return ← refusing "inherent impls cannot be negative"
  return (first.tokens, true)

/-- An implementation; one that has a visibility, is marked for constants, or is of no
path is kept. -/
def implDeclaration (scope : Tokens) : Parser (Option Tokens) := do
  let head ← inOrder [word? "default", word? "unsafe", word "impl"]
  let params ← if ← peek readsAsParams then params inner
    else pure { bracketed := false, params := [], conditioned := false, conditions := [] }
  let constant ← peek fun ts =>
    atWord "const" ts || (atOp "?" ts && atWord "const" (skipped ts))
  let _ ← optionally (fun _ => constant) (inOrder [op? "?", word "const"])
  let (subject, isPath) ← implSubject inner
  let generics ← conditions inner params
  let items ← itemsInBraces inner (implItem inner)
  if !scope.isEmpty || constant || !isPath then return none
  return some (head ++ params.tokens ++ subject ++ generics.conditions ++ items)

/-! ## Declarations in a module -/

/-- A function; one without a body is kept. -/
def functionItem : Parser (Option Tokens) := do
  let (head, _) ← signature inner false
  if ← peek (atOp ";") then
    let _ ← op ";"
    return none
  return some (head ++ (← body inner))

/-- A module. -/
def moduleItem : Parser Tokens := do
  let head ← inOrder [word? "unsafe", word "mod"]
  let name ← if ← peek (atWord "try") then anyName else name
  if ← peek (atOp ";") then return head ++ name ++ (← op ";")
  if !(← peek (atGroup .brace)) then return ← expecting ["`;`", "curly braces"]
  let items ← itemsInBraces inner do return (← inner .item).tokens
  return head ++ name ++ items

/-- A declaration that begins with `unsafe` and is no function. -/
def unsafeItem (scope : Tokens) : Parser (Option Tokens) := do
  let next := skipped (← remaining)
  if atWord "trait" next || (atWord "auto" next && atWord "trait" (skipped next)) then
    return some (← traitDeclaration inner)
  if atWord "impl" next then return ← implDeclaration inner scope
  if atWord "extern" next then
    if !scope.isEmpty then return ← refusing "expected `extern`"
    return some (← foreignItems inner)
  if atWord "mod" next then return some (← moduleItem inner)
  let _ ← word "unsafe"
  expecting (missingItem ["trait", "auto", "impl", "extern", "mod"] false next)

/-- A rule of expansion, which is kept as it is. -/
def expansionItem : Parser (Option Tokens) := do
  let _ ← inOrder [word "macro", name]
  let listed ← optionally (atGroup .parenthesis) (groupAsIs .parenthesis)
  if !(← peek (atGroup .brace)) then
    return ← expecting (if listed.isEmpty then ["parentheses", "curly braces"]
      else ["curly braces"])
  let _ ← groupAsIs .brace
  return none

/-- A declaration by a call with a bang, which may give a name. -/
def callItem : Parser Tokens := do
  let p ← plainPath
  let bang ← op "!"
  let name ← optionally (fun ts => atIdent ts || atWord "try" ts) anyName
  let arguments ← anyGroup
  return p.tokens ++ bang ++ name ++ arguments
    ++ (← optionally (fun _ => !endsWithBraces arguments) (op ";"))

/-- The words that may begin a declaration in a module. -/
def itemWords : List String :=
  ["fn", "extern", "use", "static", "const", "unsafe", "mod", "type", "struct", "enum", "union",
    "trait", "auto", "impl", "default", "macro"]

/-- A declaration in a module, after attributes and visibility. -/
def moduleLevelItem (scope : Tokens) : Parser (Option Tokens) := do
  let ts ← remaining
  let next := skipped ts
  if atSignature false ts then return ← functionItem inner
  if atWord "extern" ts then return some (← externItem inner scope)
  if atWord "use" ts then return ← useItem inner
  if atWord "static" ts then return ← staticItem inner
  if atWord "const" ts then
    let (tokens, plain, valued) ← constItem inner
    return if plain && valued then some tokens else none
  if atWord "unsafe" ts then return ← unsafeItem inner scope
  if atWord "mod" ts then return some (← moduleItem inner)
  if atWord "type" ts then
    let t ← typeItem inner true false
    return if t.colon || t.definition.isEmpty then none
      else some (t.head ++ t.conditions ++ t.definition ++ code ";")
  if atWord "struct" ts then return some (← structItem inner).tokens
  if atWord "enum" ts then return some (← enumItem inner).tokens
  if atWord "union" ts && atIdent next then return some (← unionItem inner).tokens
  if atWord "trait" ts || (atWord "auto" ts && atWord "trait" next) then
    return some (← traitDeclaration inner)
  if atWord "impl" ts || (atWord "default" ts && !atOp "!" next) then
    return ← implDeclaration inner scope
  if atWord "macro" ts then return ← expansionItem
  if scope.isEmpty && atCallPath ts then return some (← callItem)
  expecting (missingItem itemWords scope.isEmpty ts)

/-- A declaration in a module. -/
def item : Parser Node := do return { tokens := ← itemWith inner (moduleLevelItem inner) }

end Criteria.Source.Grammar
