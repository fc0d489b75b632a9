import Criteria.Source.Token
import Criteria.Text.Property.XidContinue
import Criteria.Text.Property.XidStart

/-!
# Literals and identifiers in source text

Readers of the leaves of source text that are made of more than one character.  Each
takes a leaf from the front of the text and returns what is left, or nothing when
the text does not begin with such a leaf.

Text literals come plain, as bytes and terminated by a NUL, each cooked with escapes
or raw between hash signs.  Only plain ones mean a text here.
-/

namespace Criteria.Source

open Criteria.Text (isXidStart isXidContinue)

/-! ## Identifiers -/

/-- Whether a character may begin an identifier: one of the property, or an underscore. -/
def isIdentStart (c : Char) : Bool :=
  c == '_' || isXidStart c

/-- Whether a character may continue an identifier. -/
def isIdentContinue (c : Char) : Bool :=
  isXidContinue c

/-- A plain identifier. -/
def readName? : List Char → Option (List Char × List Char)
  | [] => none
  | c :: rest =>
    if isIdentStart c then
      some (c :: rest.takeWhile isIdentContinue, rest.dropWhile isIdentContinue)
    else none

/-- Names that have no raw form. -/
def neverRaw : List String := ["_", "super", "self", "Self", "crate"]

/-- An identifier, raw or not. -/
def readIdent? : List Char → Option (List Char × List Char)
  | 'r' :: '#' :: rest =>
    (readName? rest).bind fun (name, rest) =>
      if neverRaw.contains (String.ofList name) then none
      else some ('r' :: '#' :: name, rest)
  | cs => readName? cs

/-- Drops an identifier that follows a literal immediately. -/
def dropSuffix (cs : List Char) : List Char :=
  match readName? cs with
  | some (_, rest) => rest
  | none => cs

/-! ## Escapes -/

/-- The value of a digit of a base up to sixteen. -/
def hexDigit? (c : Char) : Option Nat :=
  if '0' ≤ c ∧ c ≤ '9' then some (c.toNat - 48)
  else if 'a' ≤ c ∧ c ≤ 'f' then some (c.toNat - 87)
  else if 'A' ≤ c ∧ c ≤ 'F' then some (c.toNat - 55)
  else none

/-- The character with a code point, if there is one. -/
def charOfNat? (n : Nat) : Option Char :=
  if h : n.isValidChar then some (Char.ofNatAux n h) else none

/-- The character of an escape of one letter. -/
def letterEscape? : Char → Option Char
  | 'n' => some '\n'
  | 'r' => some '\r'
  | 't' => some '\t'
  | '\\' => some '\\'
  | '\'' => some '\''
  | '"' => some '"'
  | '0' => some '\x00'
  | _ => none

/-- What a text literal is made of. -/
inductive Flavour where
  | text
  | bytes
  /-- Text that ends with a NUL and so holds none. -/
  | terminated
deriving DecidableEq, Repr

namespace Flavour

/-- Whether a character may stand in the literal by itself. -/
def admitsChar : Flavour → Char → Bool
  | text, _ => true
  | bytes, c => decide (c.toNat < 128)
  | terminated, c => c != '\x00'

/-- Whether an escape of two hexadecimal digits may mean a number. -/
def admitsByte : Flavour → Nat → Bool
  | text, n => decide (n < 128)
  | bytes, _ => true
  | terminated, n => n != 0

/-- Whether an escape may mean a code point. -/
def admitsPoint : Flavour → Nat → Bool
  | text, _ => true
  | bytes, _ => false
  | terminated, n => n != 0

end Flavour

/-- Where a reader is inside a cooked literal. -/
inductive Place where
  | plain
  /-- After a carriage return, which only a line feed may follow. -/
  | carriage
  /-- After a backslash. -/
  | escape
  | hexHigh
  | hexLow (high : Nat)
  /-- Before the brace that opens a code point. -/
  | pointOpen
  /-- Inside the braces of a code point, after some digits. -/
  | point (value digits : Nat)
  /-- After a backslash at the end of a line, where blanks are dropped; after a
  carriage return among them a line feed must follow. -/
  | margin (carriage : Bool)

/-- What a character does at a place. -/
inductive Move where
  | close
  | go (place : Place)
  | emit (c : Char)

namespace Place

/-- The move of a character of the text itself. -/
def plainMove? (flavour : Flavour) (c : Char) : Option Move :=
  if c = '"' then some .close
  else if c = '\\' then some (.go .escape)
  else if c = '\r' then some (.go .carriage)
  else if flavour.admitsChar c then some (.emit c)
  else none

/-- The move of a character at a place; none if it must not stand there. -/
def move? (flavour : Flavour) : Place → Char → Option Move
  | plain, c => plainMove? flavour c
  | carriage, c => if c = '\n' then some (.emit '\n') else none
  | escape, c =>
    if c = 'x' then some (.go .hexHigh)
    else if c = 'u' then
      if flavour = .bytes then none else some (.go .pointOpen)
    else if c = '\n' then some (.go (.margin false))
    else if c = '\r' then some (.go (.margin true))
    else
      match letterEscape? c with
      | some e => if flavour.admitsByte e.toNat then some (.emit e) else none
      | none => none
  | hexHigh, c => (hexDigit? c).map fun high => .go (.hexLow high)
  | hexLow high, c =>
    match hexDigit? c with
    | some low =>
      if flavour.admitsByte (16 * high + low) then some (.emit (Char.ofNat (16 * high + low)))
      else none
    | none => none
  | pointOpen, c => if c = '\x7b' then some (.go (.point 0 0)) else none
  | point value digits, c =>
    match hexDigit? c with
    | some d => if digits < 6 then some (.go (.point (16 * value + d) (digits + 1))) else none
    | none =>
      if digits = 0 then none
      else if c = '_' then some (.go (.point value digits))
      else if c = '\x7d' then
        match charOfNat? value with
        | some p => if flavour.admitsPoint value then some (.emit p) else none
        | none => none
      else none
  | margin true, c => if c = '\n' then some (.go (.margin false)) else none
  | margin false, c =>
    if c = ' ' ∨ c = '\t' ∨ c = '\n' then some (.go (.margin false))
    else if c = '\r' then some (.go (.margin true))
    else plainMove? flavour c

end Place

/-- The text that a cooked literal means, from a place in it to its closing quote,
and what is left after that. -/
def readCooked? (flavour : Flavour) (place : Place) :
    List Char → Option (List Char × List Char)
  | [] => none
  | c :: rest =>
    match place.move? flavour c with
    | none => none
    | some .close => some ([], rest)
    | some (.go next) => readCooked? flavour next rest
    | some (.emit e) => (readCooked? flavour .plain rest).map fun r => (e :: r.1, r.2)

/-- The text of a raw literal up to a quote and a number of hash signs, and what is
left after those. -/
def readRawBody? (flavour : Flavour) (hashes : Nat) :
    List Char → Option (List Char × List Char)
  | [] => none
  | '"' :: rest =>
    if (List.replicate hashes '#').isPrefixOf rest then some ([], rest.drop hashes)
    else (readRawBody? flavour hashes rest).map fun r => ('"' :: r.1, r.2)
  | '\r' :: '\n' :: rest =>
    (readRawBody? flavour hashes rest).map fun r => ('\r' :: '\n' :: r.1, r.2)
  | '\r' :: _ => none
  | c :: rest =>
    if flavour.admitsChar c then
      (readRawBody? flavour hashes rest).map fun r => (c :: r.1, r.2)
    else none

/-- A raw literal after its letter. -/
def readRaw? (flavour : Flavour) (cs : List Char) : Option (List Char × List Char) :=
  let hashes := (cs.takeWhile (· == '#')).length
  if 255 < hashes then none
  else
    match cs.drop hashes with
    | '"' :: rest => readRawBody? flavour hashes rest
    | _ => none

/-- The unquoted character of a character literal, checked, and what is left after
the closing quote. -/
def afterCharacter? (bytes : Bool) (cs : List Char) : Option (List Char) :=
  match cs with
  | '\\' :: 'x' :: high :: low :: '\'' :: rest =>
    match hexDigit? high, hexDigit? low with
    | some h, some _ => if bytes || decide (h < 8) then some rest else none
    | _, _ => none
  | '\\' :: 'u' :: '\x7b' :: rest =>
    if bytes then none
    else
      let written := rest.takeWhile (· != '\x7d')
      let digits := written.filter (· != '_')
      match digits.mapM hexDigit?, rest.dropWhile (· != '\x7d') with
      | some values, _ :: '\'' :: rest =>
        let value := values.foldl (fun n d => 16 * n + d) 0
        if written.head? != some '_' && decide (1 ≤ values.length) && decide (values.length ≤ 6)
            && (charOfNat? value).isSome then some rest
        else none
      | _, _ => none
  | '\\' :: c :: '\'' :: rest => if (letterEscape? c).isSome then some rest else none
  | '\\' :: _ => none
  | c :: '\'' :: rest => if bytes && decide (128 ≤ c.toNat) then none else some rest
  | _ => none

/-! ## Numbers -/

/-- Whether a character may stand among decimal digits. -/
def isDecimalPart (c : Char) : Bool :=
  c.isDigit || c == '_'

/-- What is left after the digits of an exponent; none if it has no digit, or a
second sign before one. -/
def afterExponent? (signed valued : Bool) : List Char → Option (List Char)
  | [] => if valued then some [] else none
  | c :: rest =>
    if c = '+' ∨ c = '-' then
      if valued then some (c :: rest)
      else if signed then none
      else afterExponent? true valued rest
    else if c.isDigit then afterExponent? signed true rest
    else if c = '_' then afterExponent? signed valued rest
    else if valued then some (c :: rest)
    else none

/-- What is left after a number with a point or an exponent. -/
def afterFloatDigits? (cs : List Char) : Option (List Char) :=
  match cs with
  | [] => none
  | first :: _ =>
    if !first.isDigit then none
    else
      match cs.dropWhile isDecimalPart with
      | '.' :: rest =>
        if (rest.head?.map fun c => c == '.' || isIdentStart c).getD false then none
        else
          match rest.dropWhile isDecimalPart with
          | c :: tail =>
            if c = 'e' ∨ c = 'E' then (afterExponent? false false tail).or (some (c :: tail))
            else some (c :: tail)
          | [] => some []
      | c :: tail => if c = 'e' ∨ c = 'E' then afterExponent? false false tail else none
      | [] => none

/-- The value of a digit in a base up to sixteen. -/
def digitIn? (base : Nat) (c : Char) : Option Nat :=
  (hexDigit? c).filter (· < base)

/-- What is left after the digits of a whole number in a base. -/
def afterDigits? (base : Nat) (empty : Bool) : List Char → Option (List Char)
  | [] => if empty then none else some []
  | c :: rest =>
    if c = '_' then
      if empty && base == 10 then none else afterDigits? base empty rest
    else if (digitIn? base c).isSome then afterDigits? base false rest
    else if c.isDigit then none
    else if empty then none
    else some (c :: rest)

/-- What is left after the digits of a whole number. -/
def afterIntDigits? : List Char → Option (List Char)
  | '0' :: 'x' :: rest => afterDigits? 16 true rest
  | '0' :: 'o' :: rest => afterDigits? 8 true rest
  | '0' :: 'b' :: rest => afterDigits? 2 true rest
  | cs => afterDigits? 10 true cs

/-- What is left after the suffix of a number; none if the number runs on into a
word. -/
def endNumber? (cs : List Char) : Option (List Char) :=
  let rest := dropSuffix cs
  match rest with
  | c :: _ => if isIdentContinue c then none else some rest
  | [] => some []

/-- Whether what follows the letter of an exponent makes it one. -/
def beginsExponent (valued : Bool) : List Char → Bool
  | [] => valued
  | c :: rest =>
    if c = '+' ∨ c = '-' then true
    else if c = '_' then beginsExponent valued rest
    else if c.isDigit then beginsExponent true rest
    else valued

/-- The whole number that digits in a base continue, and the suffix after it; none if
they have no digit, or belong to a number with a point or an exponent. -/
def readWhole? (base value : Nat) (empty : Bool) : List Char → Option (Nat × List Char)
  | [] => if empty then none else some (value, [])
  | c :: rest =>
    if c = '_' then readWhole? base value empty rest
    else
      match digitIn? base c with
      | some d => readWhole? base (base * value + d) false rest
      | none =>
        if c = '.' ∨ empty then none
        else if base = 10 ∧ (c = 'e' ∨ c = 'E') ∧ beginsExponent false rest then none
        else some (value, c :: rest)

/-- The whole number that a literal is, and its suffix. -/
def Literal.whole? (l : Literal) : Option (Nat × List Char) :=
  match l.text.toList with
  | '0' :: 'x' :: rest => readWhole? 16 0 true rest
  | '0' :: 'o' :: rest => readWhole? 8 0 true rest
  | '0' :: 'b' :: rest => readWhole? 2 0 true rest
  | cs => readWhole? 10 0 true cs

/-- Whether a literal is a whole number. -/
def Literal.isWhole (l : Literal) : Bool := l.whole?.isSome

/-! ## Literals -/

/-- What is left after a literal, and the text that it means if it is a text
literal. -/
def afterLiteral? (cs : List Char) : Option (Option String × List Char) :=
  let meaning (r : List Char × List Char) : Option String × List Char :=
    (some (String.ofList r.1), dropSuffix r.2)
  let other (r : List Char × List Char) : Option String × List Char := (none, dropSuffix r.2)
  let string := match cs with
    | '"' :: rest => (readCooked? .text .plain rest).map meaning
    | 'r' :: rest => (readRaw? .text rest).map meaning
    | 'b' :: '"' :: rest => (readCooked? .bytes .plain rest).map other
    | 'b' :: 'r' :: rest => (readRaw? .bytes rest).map other
    | 'c' :: '"' :: rest => (readCooked? .terminated .plain rest).map other
    | 'c' :: 'r' :: rest => (readRaw? .terminated rest).map other
    | 'b' :: '\'' :: rest => (afterCharacter? true rest).map fun r => other ([], r)
    | '\'' :: rest => (afterCharacter? false rest).map fun r => other ([], r)
    | _ => none
  let number := ((afterFloatDigits? cs).bind endNumber?).or ((afterIntDigits? cs).bind endNumber?)
  string.or (number.map fun rest => (none, rest))

/-- A literal, and what is left after it. -/
def readLiteral? (cs : List Char) : Option (Literal × List Char) :=
  (afterLiteral? cs).map fun (value, rest) =>
    (⟨String.ofList (cs.take (cs.length - rest.length)), value⟩, rest)

/-- Whether a text begins like a literal that an identifier must not be taken
from. -/
def beginsQuoted (cs : List Char) : Bool :=
  ["r\"", "r#\"", "r##", "b\"", "b'", "br\"", "br#", "c\"", "cr\"", "cr#"].any
    fun start => start.toList.isPrefixOf cs

end Criteria.Source
