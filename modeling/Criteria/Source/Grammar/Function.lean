import Criteria.Source.Grammar.Type

/-!
# The grammar of the heads of functions

A head names a function, its parameters, inputs and result.  The first input may be the
receiver; after the last one there may be a mark for further inputs.
-/

namespace Criteria.Source.Grammar

open Criteria.Source.Parser

/-- The tokens without a word in front. -/
def withoutWord (word : String) (ts : Tokens) : Tokens :=
  if atWord word ts then skipped ts else ts

/-- The tokens without a calling convention in front. -/
def withoutConvention (ts : Tokens) : Tokens :=
  let next := skipped ts
  if !atWord "extern" ts then ts
  else if atText next then skipped next
  else next

/-- Whether the head of a function begins; one that is marked as safe only if `safe`. -/
def atSignature (safe : Bool) (ts : Tokens) : Bool :=
  let ts := withoutWord "async" (withoutWord "const" ts)
  let ts := if safe && atWord "safe" ts then skipped ts else withoutWord "unsafe" ts
  atWord "fn" (withoutConvention ts)

variable (inner : Inner)

/-! ## Inputs -/

/-- The receiver of a function. -/
def receiver : Parser Tokens := do
  let reference ← optionally (atOp "&") (inOrder [op "&", lifetime?])
  let self ← inOrder [word? "mut", word "self"]
  let typed ← optionally (fun ts => reference.isEmpty && atOp ":" ts)
    (inOrder [op ":", inner.type])
  return reference ++ self ++ typed

/-- An input of a function. -/
inductive FunctionInput where
  | receiver (tokens : Tokens)
  | typed (tokens : Tokens)
  /-- The mark of further inputs. -/
  | further (tokens : Tokens)

/-- An input of a function; one that has a type and no name gets an underscore. -/
def namedInput : Parser FunctionInput := do
  match ← optional? (receiver inner) with
  | some tokens => return .receiver tokens
  | none =>
    if ← peek fun ts => atIdent ts && atOp "<" (skipped ts) then
      return .typed (.ident "_" :: code ":" ++ (← inner.type))
    let name ← inOrder [inner.pattern, op ":"]
    if ← peek (atOp "...") then return .further (name ++ (← op "..."))
    return .typed (name ++ (← inner.type))

/-- The inputs of a function, of which `earlier` came before; at most `fuel` of them. -/
def namedInputs (earlier : Nat) (received : Bool) : Nat → Parser Tokens
  | 0 => pure []
  | fuel + 1 => do
    if ← peek List.isEmpty then return []
    let attributes ← outerAttributes inner
    let input ← if ← peek (atOp "...") then do pure (.further (← op "..."))
      else namedInput inner
    let more (tokens : Tokens) (received : Bool) : Parser Tokens := do
      if ← peek List.isEmpty then return attributes ++ tokens
      let comma ← op ","
      return attributes ++ tokens ++ comma ++ (← namedInputs (earlier + 1) received fuel)
    match input with
    | .further tokens =>
      return attributes ++ tokens ++ (← optionally (!·.isEmpty) (op ","))
    | .receiver tokens =>
      if received then return ← refusing "unexpected second method receiver"
      if earlier != 0 then return ← refusing "unexpected method receiver"
      more tokens true
    | .typed tokens => more tokens received

/-! ## Heads -/

/-- The head of a function, and whether it is marked as safe. -/
def signature (safe : Bool) : Parser (Tokens × Bool) := do
  let marks ← inOrder [word? "const", word? "async", word? "unsafe"]
  let isSafe ← peek fun ts => safe && !marks.any (·.isIdent "unsafe") && atWord "safe" ts
  let safeMark ← optionally (fun _ => isSafe) anyName
  let name ← inOrder [convention, word "fn", name]
  let params ← params inner
  let inputs : Parser Tokens := do namedInputs inner 0 false ((← remaining).length + 1)
  let rest ← inOrder [grouped .parenthesis inputs, result inner.type]
  let generics ← conditions inner params
  return (marks ++ safeMark ++ name ++ params.tokens ++ rest ++ generics.conditions, isSafe)

end Criteria.Source.Grammar
