import Criteria.Text.Property.GraphemeExtend
import Criteria.Text.Property.Unprintable

/-!
# Quoted text

The written form of a text between double quotes.  The quote and the backslash
are escaped, the common controls have short escapes, and a character that cannot
be shown by itself is written as its code point in hexadecimal.  Everything else
stands as it is, the single quote included.
-/

namespace Criteria.Text

/-- The lowercase hexadecimal digits of a number, without leading zeros. -/
def hexDigits (n : Nat) : List Char :=
  Nat.toDigits 16 n

/-- The escape that names a character by its code point. -/
def codePointEscape (c : Char) : List Char :=
  ['\\', 'u', '\x7b'] ++ hexDigits c.toNat ++ ['\x7d']

/-- Whether a character is written by its code point for want of a glyph. -/
def needsCodePoint (c : Char) : Bool :=
  isGraphemeExtend c || isUnprintable c

/-- The written form of one character inside double quotes. -/
def escapeChar (c : Char) : List Char :=
  if c = '\x00' then ['\\', '0']
  else if c = '\t' then ['\\', 't']
  else if c = '\r' then ['\\', 'r']
  else if c = '\n' then ['\\', 'n']
  else if c = '\\' then ['\\', '\\']
  else if c = '"' then ['\\', '"']
  else if needsCodePoint c then codePointEscape c
  else [c]

/-- The written form of a text's characters, without the quotes. -/
def escapeChars : List Char → List Char
  | [] => []
  | c :: rest => escapeChar c ++ escapeChars rest

/-- The characters of a text in double quotes. -/
def quoteChars (cs : List Char) : List Char :=
  '"' :: escapeChars cs ++ ['"']

/-- A text between double quotes. -/
def quote (s : String) : String :=
  String.ofList (quoteChars s.toList)

/-- A list of texts in brackets, each quoted, a comma and a space between two. -/
def quoteList (texts : List String) : String :=
  "[" ++ ", ".intercalate (texts.map quote) ++ "]"

end Criteria.Text
