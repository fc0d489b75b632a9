import Criteria.Source.Literal
import Criteria.Text.Ranges

/-!
# Lexing source text

Source text is first cut into lexemes, leaves and delimiters, with blanks and
comments between them left out; then the delimiters are matched.  A documentation
comment stands for the attribute that it abbreviates.  Text that cannot be cut, or
whose delimiters do not match, has no tokens.
-/

namespace Criteria.Source

/-! ## Blanks and comments -/

/-- The blank characters of source text. -/
def sourceBlanks : Text.Ranges := [
  (0x9, 0xD), (0x20, 0x20), (0x85, 0x85), (0xA0, 0xA0), (0x1680, 0x1680), (0x2000, 0x200A),
  (0x200E, 0x200F), (0x2028, 0x2029), (0x202F, 0x202F), (0x205F, 0x205F), (0x3000, 0x3000)]

/-- Whether a character is blank. -/
def isSourceBlank (c : Char) : Bool :=
  sourceBlanks.has c.toNat

/-- The inside of a block comment up to the end of `depth` nested ones, and what is
left after that. -/
def readBlock? (depth : Nat) : List Char → Option (List Char × List Char)
  | '/' :: '*' :: rest =>
    (readBlock? (depth + 1) rest).map fun r => ('/' :: '*' :: r.1, r.2)
  | '*' :: '/' :: rest =>
    if depth ≤ 1 then some ([], rest)
    else (readBlock? (depth - 1) rest).map fun r => ('*' :: '/' :: r.1, r.2)
  | c :: rest => (readBlock? depth rest).map fun r => (c :: r.1, r.2)
  | [] => none

/-- The rest of a line without its end, and what is left. -/
def readLine : List Char → List Char × List Char
  | [] => ([], [])
  | '\n' :: rest => ([], '\n' :: rest)
  | '\r' :: '\n' :: rest => ([], '\n' :: rest)
  | c :: rest => let (line, left) := readLine rest; (c :: line, left)

/-- Whether what follows two slashes makes them a documentation comment. -/
def isDocLine : List Char → Bool
  | '/' :: '/' :: _ => false
  | '/' :: _ => true
  | '!' :: _ => true
  | _ => false

/-- Whether what follows a slash and a star makes them a documentation comment. -/
def isDocBlock : List Char → Bool
  | '*' :: '*' :: _ => false
  | '*' :: '/' :: _ => false
  | '*' :: _ => true
  | '!' :: _ => true
  | _ => false

/-- Drops blanks and plain comments, at most `fuel` of them. -/
def skipBlanks : Nat → List Char → List Char
  | 0, cs => cs
  | fuel + 1, cs =>
    match cs with
    | '/' :: '/' :: rest =>
      if isDocLine rest then cs else skipBlanks fuel (readLine rest).2
    | '/' :: '*' :: rest =>
      if isDocBlock rest then cs
      else
        match readBlock? 1 rest with
        | some (_, rest) => skipBlanks fuel rest
        | none => cs
    | c :: rest => if isSourceBlank c then skipBlanks fuel rest else cs
    | [] => []

/-! ## Lexemes -/

/-- A leaf or a delimiter. -/
inductive Lexeme where
  | leaf (token : Token)
  | opening (delimiter : Delimiter)
  | closing (delimiter : Delimiter)

/-- Whether every carriage return of a text is followed by a line feed. -/
def hasWholeLineEnds : List Char → Bool
  | '\r' :: '\n' :: rest => hasWholeLineEnds rest
  | '\r' :: _ => false
  | _ :: rest => hasWholeLineEnds rest
  | [] => true

/-- The lexemes of the attribute that a documentation comment abbreviates. -/
def docLexemes (inner : Bool) (content : List Char) : List Lexeme :=
  [.leaf (.punct '#' false)] ++ (if inner then [.leaf (.punct '!' false)] else [])
    ++ [.opening .bracket, .leaf (.ident "doc"), .leaf (.punct '=' false),
      .leaf (.text (String.ofList content)), .closing .bracket]

/-- A documentation comment: whether it is an inner one, its content, and what is
left after it. -/
def readDoc? : List Char → Option (Bool × List Char × List Char)
  | '/' :: '/' :: mark :: rest =>
    if isDocLine (mark :: rest) then some (mark == '!', readLine rest) else none
  | '/' :: '*' :: mark :: rest =>
    if isDocBlock (mark :: rest) then
      (readBlock? 1 rest).map fun r => (mark == '!', r)
    else none
  | _ => none

/-- The punctuation marks. -/
def marks : List Char := "~!@#$%^&*-=+|;:,<.>/?'".toList

/-- Whether a text begins with a punctuation mark that does not begin a comment. -/
def beginsMark : List Char → Bool
  | '/' :: '/' :: _ => false
  | '/' :: '*' :: _ => false
  | c :: _ => marks.contains c
  | [] => false

/-- A punctuation mark; a single quote must begin a lifetime. -/
def readMark? (cs : List Char) : Option (Token × List Char) :=
  match cs with
  | [] => none
  | c :: rest =>
    if !beginsMark cs then none
    else if c = '\'' then
      match readIdent? rest with
      | none => none
      | some (_, after) =>
        let raw := ['r', '#'].isPrefixOf rest
        match after with
        | '\'' :: _ => none
        | '#' :: _ => if raw then some (.punct c true, rest) else none
        | _ => some (.punct c true, rest)
    else some (.punct c (beginsMark rest), rest)

/-- The text of the literal that stands for a failure. -/
def failureText : List Char := "(/*ERROR*/)".toList

/-- A leaf, and what is left after it. -/
def readLeaf? (cs : List Char) : Option (Token × List Char) :=
  match readLiteral? cs with
  | some (l, rest) => some (.literal l, rest)
  | none =>
    match readMark? cs with
    | some r => some r
    | none =>
      if failureText.isPrefixOf cs then
        some (.literal ⟨String.ofList failureText, none⟩, cs.drop failureText.length)
      else if beginsQuoted cs then none
      else (readIdent? cs).map fun (name, rest) => (.ident (String.ofList name), rest)

/-- The delimiter that a character opens or closes. -/
def delimiter? : Char → Option Lexeme
  | '(' => some (.opening .parenthesis)
  | ')' => some (.closing .parenthesis)
  | '[' => some (.opening .bracket)
  | ']' => some (.closing .bracket)
  | '\x7b' => some (.opening .brace)
  | '\x7d' => some (.closing .brace)
  | _ => none

/-- Cuts a text into lexemes; every round takes at least one character, so as many
rounds as characters suffice. -/
def lexemes? : Nat → List Char → Option (List Lexeme)
  | 0, _ => none
  | fuel + 1, cs =>
    let cs := skipBlanks cs.length cs
    match readDoc? cs with
    | some (inner, content, rest) =>
      if hasWholeLineEnds content then (lexemes? fuel rest).map (docLexemes inner content ++ ·)
      else none
    | none =>
      match cs with
      | [] => some []
      | c :: rest =>
        match if failureText.isPrefixOf cs then none else delimiter? c with
        | some d => (lexemes? fuel rest).map (d :: ·)
        | none =>
          match readLeaf? cs with
          | some (t, rest) => (lexemes? fuel rest).map (.leaf t :: ·)
          | none => none

/-! ## Matching delimiters -/

/-- Puts lexemes together: `done` are the trees of the innermost open group, last
one first, and `around` the delimiters of the groups around it with the trees before
them. -/
def assemble? (around : List (Delimiter × Tokens)) (done : Tokens) :
    List Lexeme → Option Tokens
  | [] => if around.isEmpty then some done.reverse else none
  | .leaf t :: rest => assemble? around (t :: done) rest
  | .opening d :: rest => assemble? ((d, done) :: around) [] rest
  | .closing d :: rest =>
    match around with
    | [] => none
    | (opened, before) :: around =>
      if opened = d then assemble? around (.group d done.reverse :: before) rest else none

/-- The tokens of a text. -/
def lex? (s : String) : Option Tokens :=
  let cs := match s.toList with
    | '\uFEFF' :: rest => rest
    | cs => cs
  (lexemes? (cs.length + 1) cs).bind (assemble? [] [])

end Criteria.Source
