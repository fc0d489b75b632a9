import Criteria.Source.Grammar.Pattern

/-!
# The grammar of expressions

An operand is an atom with signs before it and calls, members and indices after it.
Operators between operands bind by their precedence; comparisons are not chained, and
nothing is applied to a range.  Before a block no record in braces may stand.

Some expressions end with a block and are statements of their own: a conditional, a
loop, a choice, a block.
-/

namespace Criteria.Source.Grammar

open Criteria.Source.Parser

/-! ## Looking ahead -/

/-- The operators between two operands, longer ones first. -/
def binaryOperators : List (String × Precedence) := [
  ("+=", .assign), ("-=", .assign), ("*=", .assign), ("/=", .assign), ("%=", .assign),
  ("^=", .assign), ("&=", .assign), ("|=", .assign), ("<<=", .assign), (">>=", .assign),
  ("&&", .and), ("||", .or), ("<<", .shift), (">>", .shift), ("==", .compare), ("<=", .compare),
  ("!=", .compare), (">=", .compare), ("+", .sum), ("-", .sum), ("*", .product),
  ("/", .product), ("%", .product), ("^", .bitXor), ("&", .bitAnd), ("|", .bitOr),
  ("<", .compare), (">", .compare)]

/-- The operator between two operands that the tokens begin with, if any. -/
def binaryOperator? (ts : Tokens) : Option (String × Precedence) :=
  binaryOperators.find? fun o => atOp o.1 ts

/-- Whether an assignment begins. -/
def atAssign (ts : Tokens) : Bool := atOp "=" ts && !atOp "=>" ts

/-- The precedence of what comes after an operand, the least one if nothing does. -/
def nextPrecedence (ts : Tokens) : Precedence :=
  match binaryOperator? ts with
  | some (_, p) => p
  | none =>
    if atAssign ts then .assign
    else if atOp ".." ts then .range
    else if atWord "as" ts then .cast
    else .jump

/-- Whether an expression may begin. -/
def atExpression (ts : Tokens) : Bool :=
  (atAnyIdent ts && !atWord "as" ts)
    || atGroup .parenthesis ts || atGroup .bracket ts || atGroup .brace ts || atLiteral ts
    || atBang ts
    || (atOp "-" ts && !atOp "-=" ts && !atOp "->" ts)
    || (atOp "*" ts && !atOp "*=" ts)
    || (atOp "|" ts && !atOp "|=" ts)
    || (atOp "&" ts && !atOp "&=" ts)
    || atOp ".." ts
    || (atOp "<" ts && !atOp "<=" ts && !atOp "<<=" ts)
    || atOp "::" ts || atLifetime ts || atOp "#" ts

/-- Whether a range of expressions without an upper end is over. -/
def endsHalfRange (records : Bool) (ts : Tokens) : Bool :=
  ts.isEmpty || atOp "," ts || atOp ";" ts || atDot ts || atOp "?" ts || atOp "=>" ts
    || (!records && atGroup .brace ts)
    || ["=", "+", "/", "%", "^", ">", "<=", "!=", "-=", "*=", "&=", "|=", "<<="].any (atOp · ts)
    || atWord "as" ts

/-- Whether a function with a binder begins, rather than a loop. -/
def atBinderFunction (ts : Tokens) : Bool := atWord "for" ts && readsAsParams (skipped ts)

/-- Whether a function without a name begins. -/
def atFunction (ts : Tokens) : Bool :=
  let next := skipped ts
  atOp "|" ts || atWord "move" ts || atBinderFunction ts
    || (atWord "const" ts && !atGroup .brace next)
    || atWord "static" ts
    || (atWord "async" ts && (atOp "|" next || atWord "move" next))

/-- Whether a block that is run later begins. -/
def atLaterBlock (ts : Tokens) : Bool :=
  let next := skipped ts
  atWord "async" ts
    && (atGroup .brace next || (atWord "move" next && atGroup .brace (skipped next)))

/-- Whether a block that may fail begins. -/
def atTryBlock (ts : Tokens) : Bool := atWord "try" ts && atGroup .brace (skipped ts)

/-- Whether an expression begins with a path. -/
def atExpressionPath (ts : Tokens) : Bool :=
  atPath ts
    || (atWord "try" ts && (atOp "!" (skipped ts) || atOp "::" (skipped ts)))

/-- What follows a cast that must not, if it does. -/
def afterCast? (ts : Tokens) : Option String :=
  let next := skipped ts
  let third := skipped next
  if atDot ts then
    if atWord "await" next then some "`.await`"
    else if atIdent next && (atGroup .parenthesis third || atOp "::" third) then
      some "a method call"
    else some "a field access"
  else if atOp "?" ts then some "`?`"
  else if atGroup .bracket ts then some "indexing"
  else if atGroup .parenthesis ts then some "a function call"
  else none

variable (inner : Inner)

/-! ## Operators -/

/-- The operand to the right of an operator, with the operators that bind tighter; at
most `fuel` of them. -/
def rightWith (p : Precedence) (records : Bool) (right : Node) : Nat → Parser Node
  | 0 => pure right
  | fuel + 1 => do
    let before ← remaining
    let next := nextPrecedence before
    if p.level < next.level || (next == .assign && p == .assign) then
      let more ← inner (.operators right next records)
      if (← remaining).length == before.length then return more
      rightWith p records more fuel
    else return right

/-- The operand to the right of an operator, with the operators that bind tighter. -/
def rightOperand (p : Precedence) (records : Bool) : Parser Node := do
  let first ← inner (.operand records)
  rightWith inner p records first ((← remaining).length + 1)

/-- A range after its lower end. -/
def rangeFrom (lower : Node) (records : Bool) : Parser Node := do
  let (dots, closed) ← rangeDots
  let front := lower.tokens ++ dots
  if !closed && (← peek (endsHalfRange records)) then return { tokens := front, shape := .range }
  return { tokens := front ++ (← rightOperand inner .range records).tokens, shape := .range }

/-- A cast. -/
def castOf (e : Node) : Parser Node := do
  let target ← inOrder [word "as", inner.typeWithoutPlus]
  match afterCast? (← remaining) with
  | some what => violating ("casts cannot be followed by " ++ what)
  | none => return { tokens := e.tokens ++ target, fixedHead := e.fixedHead }

/-- What the next operator makes of an operand; nothing if none comes that binds at
least as strongly as `floor`. -/
def operatorStep (left : Node) (floor : Precedence) (records : Bool) : Parser (Option Node) := do
  if left.isRange then return none
  let ts ← remaining
  match binaryOperator? ts with
  | some (sign, p) =>
    if p.level < floor.level then return none
    if p == .compare && left.isComparison then
      return ← violating "comparison operators cannot be chained"
    let sign ← op sign
    let right ← rightOperand inner p records
    return some {
      tokens := left.tokens ++ sign ++ right.tokens
      shape := if p == .compare then .comparison else .plain
      fixedHead := left.fixedHead }
  | none =>
    if floor.level ≤ Precedence.assign.level && atAssign ts then
      let equals ← op "="
      let right ← rightOperand inner .assign records
      return some { tokens := left.tokens ++ equals ++ right.tokens, fixedHead := left.fixedHead }
    if floor.level ≤ Precedence.range.level && atOp ".." ts then
      return some (← rangeFrom inner left records)
    if floor.level ≤ Precedence.cast.level && atWord "as" ts then
      return some (← castOf inner left)
    return none

/-- What operators that bind at least as strongly as `floor` make of an operand. -/
def operators (left : Node) (floor : Precedence) (records : Bool) : Parser Node := do
  match ← operatorStep inner left floor records with
  | some e => inner (.operators e floor records)
  | none => return left

/-- An expression; a record in braces only if `records`. -/
def expression (records : Bool) : Parser Node := do
  let left ← inner (.operand records)
  operators inner left .jump records

/-! ## Members, calls and indices -/

/-- The numbers in a literal with points, each a member; whether a point is left over. -/
def pointMembers (l : Literal) : Parser (Tokens × Bool) := do
  let parts := l.text.splitOn "."
  let trailing := parts.getLast? == some ""
  let numbers ← (parts.filter (· != "")).mapM fun part => do
    match Literal.whole? ⟨part, none⟩ with
    | some (n, []) =>
      if 4294967295 < n then
        return ← refusing "number too large to fit in target type"
      pure [Token.literal ⟨toString n, none⟩]
    | some _ => refusing "expected unsuffixed integer"
    | none => refusing "expected integer literal"
  return ((numbers.intersperse (code ".")).flatten, trailing)

/-- The literal with a point or an exponent that comes next, if one does. -/
def pointLiteral? : Tokens → Option (Bool × Literal × Tokens)
  | .literal l :: rest => if l.isNumber && !l.isWhole then some (false, l, rest) else none
  | .punct '-' _ :: .literal l :: rest =>
    if l.isNumber && !l.isWhole then some (true, l, rest) else none
  | _ => none

/-- A member or the call of one, after the dot. -/
def namedMember : Parser Tokens := do
  if ← peek (atWord "await") then return ← anyName
  let (m, named) ← member
  if !named then return m
  if ← peek (atOp "::") then
    let generic ← arguments inner
    return m ++ generic.tokens ++ (← grouped .parenthesis (commaTokens inner.expression))
  return m ++ (← optionally (atGroup .parenthesis)
    (grouped .parenthesis (commaTokens inner.expression)))

/-- A member of what is in front of the dot; a literal with points gives several. -/
def memberAccess : Parser Tokens := do
  let dot ← op "."
  match pointLiteral? (← remaining) with
  | none => return dot ++ (← namedMember inner)
  | some (true, l, _) =>
    match Literal.whole? ⟨(l.text.splitOn ".").headD "", none⟩ with
    | some (_, []) => refusing "invalid digit found in string"
    | some _ => refusing "expected unsuffixed integer"
    | none => refusing "expected integer literal"
  | some (false, l, rest) =>
    advanceTo rest
    let (members, trailing) ← pointMembers l
    if !trailing then return dot ++ members
    return dot ++ members ++ dot ++ (← namedMember inner)

/-- One call, member, index or question mark. -/
def trailer : Parser Tokens := do
  if ← peek (atGroup .parenthesis) then
    return ← grouped .parenthesis (commaTokens inner.expression)
  if ← peek (atGroup .bracket) then return ← grouped .bracket inner.expression
  if ← peek (atOp "?") then return ← op "?"
  memberAccess inner

/-- Whether something is applied to what is in front. -/
def atTrailer (ts : Tokens) : Bool :=
  atGroup .parenthesis ts || atGroup .bracket ts || atOp "?" ts || atDot ts

/-- An expression with the calls, members and indices after it. -/
def withTrailers (e : Node) : Parser Node := do
  if e.isRange then return e
  let more ← manyWhile atTrailer (trailer inner)
  if more.isEmpty then return e
  return { tokens := e.tokens ++ more.flatten }

/-! ## Atoms -/

/-- A field of a record in braces. -/
def recordField : Parser Tokens := do
  let attributes ← outerAttributes inner
  let (m, named) ← member
  if named && !(← peek (atOp ":")) then return attributes ++ m
  return attributes ++ m ++ (← inOrder [op ":", inner.expression])

/-- The inside of the braces of a record, at most `fuel` fields. -/
def recordFields : Nat → Parser Tokens
  | 0 => pure []
  | fuel + 1 => do
    if ← peek List.isEmpty then return []
    if ← peek (atOp "..") then
      return ← inOrder [op "..", optionally (!·.isEmpty) inner.expression]
    let first ← recordField inner
    if ← peek List.isEmpty then return first
    let comma ← op ","
    return first ++ comma ++ (← recordFields fuel)

/-- An expression that begins with a path: the path, a call with a bang, or a record. -/
def pathExpression (records : Bool) : Parser Node := do
  let p ← typedPath inner true
  if p.isPlain && (← peek atBang) then
    let braced ← peek fun ts => atGroup .brace (skipped ts)
    return { tokens := p.tokens ++ (← bangCall), shape := .bangCall braced }
  if records && (← peek (atGroup .brace)) then
    let fields : Parser Tokens := do recordFields inner ((← remaining).length + 1)
    return { tokens := p.tokens ++ (← grouped .brace fields) }
  return { tokens := p.tokens }

/-- The inside of the brackets of an array. -/
def arrayItems : Parser Tokens := do
  if ← peek List.isEmpty then return []
  let first ← inner.expression
  if ← peek (atOp ";") then return first ++ (← inOrder [op ";", inner.expression])
  if ← peek List.isEmpty then return first
  if !(← peek (atOp ",")) then return ← violating "expected `,` or `;`"
  let comma ← op ","
  return first ++ comma ++ (← commaTokens inner.expression)

/-- The parameter of a function without a name. -/
def functionParam : Parser Tokens := do
  let attributes ← outerAttributes inner
  let p ← inner .pattern
  let typed ← optionally (atOp ":") (inOrder [op ":", inner.type])
  let isBare := p.isAsWritten && typed.isEmpty
  return (if isBare then [] else attributes) ++ p.tokens ++ typed

/-- A function without a name. -/
def function (records : Bool) : Parser Tokens := do
  let head ← inOrder [binder inner, word? "const", word? "static", word? "async",
    word? "move", op "|"]
  let params ← listUntil (atOp "|") "," (functionParam inner)
  let closing ← op "|"
  let front := head ++ params.tokens "," ++ closing
  if ← peek (atOp "->") then
    return front ++ (← inOrder [op "->", inner.type, inner.block])
  return front ++ (← inner (.expression records)).tokens

/-- A conditional expression, with at most `fuel` branches. -/
def conditional : Nat → Parser Tokens
  | 0 => pure []
  | fuel + 1 => do
    let first ← inOrder [word "if", inner.condition, inner.block]
    if !(← peek (atWord "else")) then return first
    let otherwise ← word "else"
    if ← peek (atWord "if") then return first ++ otherwise ++ (← conditional fuel)
    if ← peek (atGroup .brace) then return first ++ otherwise ++ (← inner.block)
    expecting ["`if`", "curly braces"]

/-- A loop or a block, after its label if it has one. -/
def loopOrBlock? : Parser (Option Tokens) := do
  if ← peek (atWord "while") then
    return some (← inOrder [word "while", inner.condition, inner.attributedBlock])
  if ← peek (atWord "for") then
    return some (← inOrder [word "for", (do return (← alternatives inner).tokens), word "in",
      inner.condition, inner.attributedBlock])
  if ← peek (atWord "loop") then
    return some (← inOrder [word "loop", inner.attributedBlock])
  if ← peek (atGroup .brace) then return some (← inner.attributedBlock)
  return none

/-- A loop or a block with a label. -/
def labelled : Parser Tokens := do
  let label ← inOrder [lifetime, op ":"]
  match ← loopOrBlock? inner with
  | some body => return label ++ body
  | none => violating "expected loop or block expression"

/-- An arm of a choice. -/
def arm : Parser Tokens := do
  let head ← inOrder [outerAttributes inner, (do return (← alternatives inner).tokens),
    optionally (atWord "if") (inOrder [word "if", inner.expression]), op "=>"]
  let body ← inner .early
  let last ← peek List.isEmpty
  return head ++ body.tokens ++ (← if body.isBlockLike || last then op? "," else op ",")

/-- A choice between patterns. -/
def choice : Parser Tokens := do
  let head ← inOrder [word "match", inner.condition]
  let arms : Parser Tokens := do
    let attributes ← innerAttributes inner
    return attributes ++ (← manyWhile (!·.isEmpty) (arm inner)).flatten
  return head ++ (← grouped .brace arms)

/-- A jump out of a loop or a block. -/
def breakOut (records : Bool) : Parser Tokens := do
  let head ← word "break"
  if ← peek fun ts => atLifetime ts && atOp ":" (skipped ts) then
    let _ ← inner.expression
    return ← refusing "parentheses required"
  let label ← lifetime?
  let valued ← peek fun ts => atExpression ts && (records || !atGroup .brace ts)
  return head ++ label ++ (← if valued then inner.expression else pure [])

/-- A binding that is a condition. -/
def bindingCondition (records : Bool) : Parser Tokens := do
  let head ← inOrder [word "let", (do return (← alternatives inner).tokens), op "="]
  let left ← inner (.operand records)
  return head ++ (← operators inner left .compare records).tokens

/-- A block that may fail. -/
def tryBlock : Parser Tokens := inOrder [word "try", inner.block]

/-- An expression that ends with a block, if one begins. -/
def blockLike? : Parser (Option Node) := do
  let ended (tokens : Tokens) : Option Node := some { tokens, shape := .blockLike }
  if ← peek (atWord "if") then
    return ended (← conditional inner ((← remaining).length + 1))
  if ← peek atBinderFunction then return none
  if ← peek (atAnyOf ["while", "for", "loop"]) then
    return (← loopOrBlock? inner).bind ended
  if ← peek (atWord "match") then return ended (← choice inner)
  if ← peek atTryBlock then return ended (← tryBlock inner)
  if ← peek (atWord "unsafe") then
    return ended (← inOrder [word "unsafe", inner.attributedBlock])
  if ← peek fun ts => atWord "const" ts && atGroup .brace (skipped ts) then
    return ended (← inOrder [word "const", inner.attributedBlock])
  if ← peek (atGroup .brace) then return ended (← inner.attributedBlock)
  if ← peek atLifetime then return ended (← labelled inner)
  return none

/-- An atom of an expression. -/
def atom (records : Bool) : Parser Node := do
  if ← peek atLiteral then return { tokens := ← literal }
  if ← peek atLaterBlock then
    return { tokens := ← inOrder [word "async", word? "move", inner.block] }
  if ← peek atTryBlock then return { tokens := ← tryBlock inner, shape := .blockLike }
  if ← peek atFunction then return { tokens := ← function inner records }
  if ← peek atBuiltin then return ← builtin
  if ← peek atExpressionPath then return ← pathExpression inner records
  if ← peek (atGroup .parenthesis) then
    return { tokens := ← grouped .parenthesis (commaTokens inner.expression) }
  if ← peek (atWord "break") then return { tokens := ← breakOut inner records }
  if ← peek (atWord "continue") then
    return { tokens := ← inOrder [word "continue", lifetime?] }
  if ← peek (atAnyOf ["return", "yield"]) then
    return { tokens := ← inOrder [anyName, optionally atExpression inner.expression] }
  if ← peek (atWord "become") then
    let start ← remaining
    let _ ← inOrder [word "become", inner.expression]
    return .asWritten (← writtenSince start)
  if ← peek (atGroup .bracket) then return { tokens := ← grouped .bracket (arrayItems inner) }
  if ← peek (atWord "let") then return { tokens := ← bindingCondition inner records }
  match ← blockLike? inner with
  | some e => return e
  | none =>
    if ← peek (atOp "..") then return ← rangeFrom inner { tokens := [] } records
    if ← peek (atWord "_") then return { tokens := ← word "_" }
    violating "expected an expression"

/-! ## Operands -/

/-- A reference to an operand, or its address. -/
def reference (records : Bool) : Parser Tokens := do
  let amp ← op "&"
  let addressed ← peek fun ts => atWord "raw" ts && atAnyOf ["mut", "const"] (skipped ts)
  let marks ← if addressed then inOrder [word "raw", anyName] else word? "mut"
  return amp ++ marks ++ (← inner (.operand records)).tokens

/-- The sign in front of an operand. -/
def sign : Parser Tokens := do
  if ← peek (atOp "*") then return ← op "*"
  if ← peek (atOp "!") then return ← op "!"
  op "-"

/-- An operand: an atom with what stands before and after it. -/
def operand (records : Bool) : Parser Node := do
  let start ← remaining
  let attributes ← outerAttributes inner
  if ← peek (atOp "&") then return { tokens := attributes ++ (← reference inner records) }
  if ← peek fun ts => atOp "*" ts || atOp "!" ts || atOp "-" ts then
    let mark ← sign
    return { tokens := attributes ++ mark ++ (← inner (.operand records)).tokens }
  let e ← withTrailers inner (← atom inner records)
  if e.isAsWritten then return .asWritten (← writtenSince start)
  if attributes.isEmpty then return e
  if e.isRange then
    return ← refusing "attributes are not allowed on range expressions starting with `..`"
  return e.withAttributes attributes

/-- An expression that stands where a statement may: one that ends with a block is over
there unless a member or a question mark comes next. -/
def early : Parser Node := do
  let attributes ← outerAttributes inner
  let first ← match ← blockLike? inner with
    | some e => pure e
    | none => operand inner true
  if !first.isBlockLike then return ← operators inner (first.withAttributes attributes) .jump true
  if ← peek fun ts => atDot ts || atOp "?" ts then
    let e ← withTrailers inner first
    return ← operators inner (e.withAttributes attributes) .jump true
  return first.withAttributes attributes

end Criteria.Source.Grammar
