import Criteria.Source.Token

/-!
# Parsing tokens

A parser takes tokens from the front of a sequence.  What it takes it gives back in
normal form: an operator as its marks, joint except for the last, however the source
wrote what comes next to it.

A parser fails with what it expected; whether the tokens had come to their end is part
of the failure.  A group whose parser leaves tokens over does not fail at once: the
first such group is remembered, and only the parse of the whole is refused for it.
-/

namespace Criteria.Source

namespace Delimiter

/-- What should have come when a group is missing. -/
def name : Delimiter → String
  | parenthesis => "parentheses"
  | bracket => "square brackets"
  | brace => "curly braces"

/-- The mark that ends a group. -/
def closing : Delimiter → String
  | parenthesis => ")"
  | bracket => "]"
  | brace => "\x7d"

end Delimiter

/-- Why tokens do not parse. -/
inductive ParseError where
  /-- One of some things should have come, described in words. -/
  | expected (things : List String) (atEnd : Bool)
  /-- An identifier should have come and not a keyword. -/
  | keyword (found : String)
  /-- The tokens are not as another rule wants them. -/
  | violated (rule : String) (atEnd : Bool)
  /-- Tokens were left over, in a group or after everything. -/
  | unused (group : Option Delimiter)
deriving DecidableEq, Repr

namespace ParseError

/-- The failure in words. -/
def message : ParseError → String
  | expected [] atEnd => if atEnd then "unexpected end of input" else "unexpected token"
  | expected things atEnd =>
    let what := match things with
      | [a] => "expected " ++ a
      | [a, b] => "expected " ++ a ++ " or " ++ b
      | things => "expected one of: " ++ ", ".intercalate things
    if atEnd then "unexpected end of input, " ++ what else what
  | keyword found => "expected identifier, found keyword `" ++ found ++ "`"
  | violated rule atEnd => if atEnd then "unexpected end of input, " ++ rule else rule
  | unused none => "unexpected token"
  | unused (some d) => "unexpected token, expected `" ++ d.closing ++ "`"

end ParseError

/-- What a parser works on: the tokens that are left, and the delimiter of the first
group that was not used up. -/
structure Input where
  tokens : Tokens
  unused : Option Delimiter := none

/-- Refuses what is not used up, a group before the tokens after everything. -/
def Input.finish (s : Input) : Except ParseError Unit :=
  match s.unused with
  | some d => .error (.unused (some d))
  | none => if s.tokens.isEmpty then .ok () else .error (.unused none)

/-- A parser: from what is left to a result and what is left after it. -/
abbrev Parser (α : Type) := StateT Input (Except ParseError) α

namespace Parser

variable {α : Type}

/-- Fails with what should have come. -/
def expecting (things : List String) : Parser α := fun s =>
  .error (.expected things s.tokens.isEmpty)

/-- Fails with a rule. -/
def violating (rule : String) : Parser α := fun s =>
  .error (.violated rule s.tokens.isEmpty)

/-- Fails with a rule that is broken by what was taken already. -/
def refusing (rule : String) : Parser α := fun _ =>
  .error (.violated rule false)

/-- The tokens that are left. -/
def remaining : Parser Tokens := fun s => .ok (s.tokens, s)

/-- Whether the tokens that are left satisfy a condition. -/
def peek (p : Tokens → Bool) : Parser Bool := fun s => .ok (p s.tokens, s)

/-- Goes on with other tokens. -/
def advanceTo (tokens : Tokens) : Parser Unit := fun s => .ok ((), { s with tokens })

/-- The tokens from an earlier place to this one, as the source wrote them. -/
def writtenSince (start : Tokens) : Parser Tokens := fun s =>
  .ok (start.take (start.length - s.tokens.length), s)

/-- Runs a parser on the tokens of a group and goes on with those that are left after
the group. -/
def inside (delimiter : Delimiter) (tokens : Tokens) (p : Parser α) : Parser α := fun s =>
  match p { s with tokens } with
  | .error e => .error e
  | .ok (x, t) =>
    let unused := if t.tokens.isEmpty then t.unused else t.unused.or (some delimiter)
    .ok (x, { tokens := s.tokens, unused })

/-- The result of a parser on all of some tokens. -/
def run (p : Parser α) (tokens : Tokens) : Except ParseError α :=
  match p { tokens } with
  | .error e => .error e
  | .ok (x, t) => t.finish.map fun _ => x

/-- Runs a parser, or takes nothing if it fails. -/
def optional? (p : Parser α) : Parser (Option α) := fun s =>
  match p s with
  | .ok (x, t) => .ok (some x, t)
  | .error _ => .ok (none, s)

/-- Phrases one after the other. -/
def inOrder : List (Parser Tokens) → Parser Tokens
  | [] => pure []
  | p :: rest => do return (← p) ++ (← inOrder rest)

/-- A phrase if a condition on the tokens holds, and otherwise nothing. -/
def optionally (p : Tokens → Bool) (phrase : Parser Tokens) : Parser Tokens := do
  if ← peek p then phrase else pure []

/-- Collects what a parser gives as long as a condition on the tokens holds, at most
`fuel` times. -/
def whileAtMost (more : Tokens → Bool) (p : Parser α) : Nat → Parser (List α)
  | 0 => pure []
  | fuel + 1 => do
    if !(← peek more) then return []
    let first ← p
    return first :: (← whileAtMost more p fuel)

/-- Collects what a parser gives as long as a condition on the tokens holds.  Every
round takes a token, so their number bounds the rounds. -/
def manyWhile (more : Tokens → Bool) (p : Parser α) : Parser (List α) := do
  whileAtMost more p ((← remaining).length + 1)

end Parser

/-! ## Looking ahead -/

/-- Words that are not identifiers of their own. -/
def keywords : List String := [
  "_", "abstract", "as", "async", "await", "become", "box", "break", "const", "continue",
  "crate", "do", "dyn", "else", "enum", "extern", "false", "final", "fn", "for", "if", "impl",
  "in", "let", "loop", "macro", "match", "mod", "move", "mut", "override", "priv", "pub", "ref",
  "return", "Self", "self", "static", "struct", "super", "trait", "true", "try", "type",
  "typeof", "unsafe", "unsized", "use", "virtual", "where", "while", "yield"]

/-- The tokens after the first one; a lifetime counts as one. -/
def skipped : Tokens → Tokens
  | .punct '\'' true :: .ident _ :: rest => rest
  | _ :: rest => rest
  | [] => []

/-- Whether the tokens begin with the marks of an operator, each but the last joint
to the next. -/
def beginsOperator : List Char → Tokens → Bool
  | [], _ => true
  | [c], .punct d _ :: _ => c == d
  | c :: rest, .punct d joint :: ts => c == d && joint && beginsOperator rest ts
  | _, _ => false

/-- Whether the tokens begin with an operator. -/
def atOp (op : String) (ts : Tokens) : Bool := beginsOperator op.toList ts

/-- Whether the tokens begin with a colon that is no half of a double one. -/
def atColon (ts : Tokens) : Bool := atOp ":" ts && !atOp "::" ts

/-- Whether the tokens begin with a dot that begins no longer operator. -/
def atDot (ts : Tokens) : Bool := atOp "." ts && !atOp ".." ts

/-- Whether the tokens begin with a word. -/
def atWord (word : String) (ts : Tokens) : Bool :=
  match ts with
  | .ident text :: _ => text == word
  | _ => false

/-- Whether the tokens begin with one of some words. -/
def atAnyOf (words : List String) (ts : Tokens) : Bool := words.any (atWord · ts)

/-- Whether the tokens begin with an identifier or a keyword. -/
def atAnyIdent : Tokens → Bool
  | .ident _ :: _ => true
  | _ => false

/-- Whether the tokens begin with an identifier. -/
def atIdent : Tokens → Bool
  | .ident text :: _ => !keywords.contains text
  | _ => false

/-- Whether the tokens begin with a lifetime. -/
def atLifetime : Tokens → Bool
  | .punct '\'' true :: .ident _ :: _ => true
  | _ => false

/-- Whether the tokens begin with a group. -/
def atGroup (delimiter : Delimiter) : Tokens → Bool
  | .group d _ :: _ => d == delimiter
  | _ => false

/-- Whether a literal is a number. -/
def Literal.isNumber (l : Literal) : Bool :=
  (l.text.toList.head?.map Char.isDigit).getD false

/-- Whether the tokens begin with a literal: a truth value, a text or a number, the
last possibly with a sign. -/
def atLiteral : Tokens → Bool
  | .literal _ :: _ => true
  | .ident text :: _ => text == "true" || text == "false"
  | .punct '-' _ :: .literal l :: _ => l.isNumber
  | _ => false

/-- Whether the tokens begin with a text literal. -/
def atText : Tokens → Bool
  | .literal l :: _ => l.value.isSome
  | _ => false

/-! ## Taking tokens -/

namespace Parser

/-- Takes an operator.  A missing one is reported alike at the end of the tokens and
before it. -/
def op (text : String) : Parser Tokens := fun s =>
  if atOp text s.tokens then
    .ok (operatorTokens text.toList, { s with tokens := s.tokens.drop text.length })
  else .error (.expected ["`" ++ text ++ "`"] false)

/-- Takes an operator if it comes. -/
def op? (text : String) : Parser Tokens := optionally (atOp text) (op text)

/-- Takes a word. -/
def word (text : String) : Parser Tokens := fun s =>
  match s.tokens with
  | .ident t :: rest =>
    if t == text then .ok ([.ident t], { s with tokens := rest })
    else .error (.expected ["`" ++ text ++ "`"] false)
  | ts => .error (.expected ["`" ++ text ++ "`"] ts.isEmpty)

/-- Takes a word if it comes. -/
def word? (text : String) : Parser Tokens := optionally (atWord text) (word text)

/-- Takes an identifier or a keyword. -/
def anyIdent : Parser String := fun s =>
  match s.tokens with
  | .ident text :: rest => .ok (text, { s with tokens := rest })
  | ts => .error (.expected ["identifier"] ts.isEmpty)

/-- Takes an identifier. -/
def ident : Parser String := fun s =>
  match s.tokens with
  | .ident text :: rest =>
    if keywords.contains text then .error (.keyword text)
    else .ok (text, { s with tokens := rest })
  | ts => .error (.expected ["identifier"] ts.isEmpty)

/-- The token of an identifier. -/
def name : Parser Tokens := do return [.ident (← ident)]

/-- The token of an identifier or a keyword. -/
def anyName : Parser Tokens := do return [.ident (← anyIdent)]

/-- Takes a lifetime. -/
def lifetime : Parser Tokens := fun s =>
  match s.tokens with
  | .punct '\'' true :: .ident text :: rest =>
    .ok ([.punct '\'' true, .ident text], { s with tokens := rest })
  | ts => .error (.expected ["lifetime"] ts.isEmpty)

/-- Takes a lifetime if it comes. -/
def lifetime? : Parser Tokens := optionally atLifetime lifetime

/-- Takes a group and gives its tokens. -/
def group (delimiter : Delimiter) : Parser Tokens := fun s =>
  match s.tokens with
  | .group d tokens :: rest =>
    if d = delimiter then .ok (tokens, { s with tokens := rest })
    else .error (.expected [delimiter.name] false)
  | ts => .error (.expected [delimiter.name] ts.isEmpty)

/-- Takes a group with a phrase inside. -/
def grouped (delimiter : Delimiter) (phrase : Parser Tokens) : Parser Tokens := do
  let content ← group delimiter
  return [.group delimiter (← inside delimiter content phrase)]

/-- Takes a group with any tokens. -/
def groupAsIs (delimiter : Delimiter) : Parser Tokens := do
  return [.group delimiter (← group delimiter)]

/-- Takes a group of any kind as it is. -/
def anyGroup : Parser Tokens := fun s =>
  match s.tokens with
  | .group d tokens :: rest => .ok ([.group d tokens], { s with tokens := rest })
  | ts => .error (.expected ["delimiter"] ts.isEmpty)

/-- Takes a literal; a sign and the number after it stay two tokens. -/
def literal : Parser Tokens := fun s =>
  let failure : Except ParseError (Tokens × Input) :=
    .error (.expected ["literal"] s.tokens.isEmpty)
  match s.tokens with
  | .literal l :: rest => .ok ([.literal l], { s with tokens := rest })
  | .ident text :: rest =>
    if text == "true" || text == "false" then .ok ([.ident text], { s with tokens := rest })
    else failure
  | .punct '-' _ :: .literal l :: rest =>
    if l.isNumber then .ok ([.punct '-' false, .literal l], { s with tokens := rest })
    else failure
  | _ => failure

/-! ## Lists -/

/-- Items of a list, each with whether a separator follows it. -/
abbrev Listing (α : Type) := List (α × Bool)

/-- At most `fuel` items of a list. -/
def listAtMost {α : Type} (ends : Tokens → Bool) (separator : String) (item : Parser α) :
    Nat → Parser (Listing α)
  | 0 => pure []
  | fuel + 1 => do
    if ← peek ends then return []
    let first ← item
    if ← peek ends then return [(first, false)]
    let _ ← op separator
    return (first, true) :: (← listAtMost ends separator item fuel)

/-- Items with separators between them, and possibly after the last one, up to tokens
that end the list. -/
def listUntil {α : Type} (ends : Tokens → Bool) (separator : String) (item : Parser α) :
    Parser (Listing α) := do
  listAtMost ends separator item ((← remaining).length + 1)

/-- At most `fuel` items of a chain. -/
def chainAtMost {α : Type} (ends : Tokens → Bool) (separator : String) (item : Parser α) :
    Nat → Parser (Listing α)
  | 0 => pure []
  | fuel + 1 => do
    if ← peek ends then return []
    let first ← item
    if !(← peek (atOp separator)) then return [(first, false)]
    let _ ← op separator
    return (first, true) :: (← chainAtMost ends separator item fuel)

/-- Items for as long as separators follow them.  After a separator the list may end. -/
def chain {α : Type} (ends : Tokens → Bool) (separator : String) (item : Parser α) :
    Parser (Listing α) := do
  chainAtMost ends separator item ((← remaining).length + 1)

/-- The tokens of a list. -/
def Listing.tokens (separator : String) (items : Listing Tokens) : Tokens :=
  items.flatMap fun (t, more) => t ++ (if more then operatorTokens separator.toList else [])

/-- Items with commas between them to the end of the tokens. -/
def commaSeparated {α : Type} (item : Parser α) : Parser (Listing α) :=
  listUntil List.isEmpty "," item

/-- The tokens of items with commas between them to the end of the tokens. -/
def commaTokens (item : Parser Tokens) : Parser Tokens := do
  return (← commaSeparated item).tokens ","

end Parser

end Criteria.Source
