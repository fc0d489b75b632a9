import Criteria.Json
import Criteria.Text.Quoted

/-!
# Writing JSON text

The compact written form of a value: no blanks, and in strings only those
characters escaped that must be.  A numeral is written with its own digits.  What
is broken has no written form and is left out.
-/

namespace Criteria

/-- A numeral as it is written. -/
def Numeral.write (n : Numeral) : List Char :=
  (if n.negative then ['-'] else []) ++ n.whole
    ++ (match n.fraction with
      | none => []
      | some digits => '.' :: digits)
    ++ (match n.exponent with
      | none => []
      | some (negative, digits) => 'e' :: ((if negative then ['-'] else []) ++ digits))

namespace Json

/-- A character inside quotes. -/
def writeChar (c : Char) : List Char :=
  if c = '"' then ['\\', '"']
  else if c = '\\' then ['\\', '\\']
  else if c = '\x08' then ['\\', 'b']
  else if c = '\x0c' then ['\\', 'f']
  else if c = '\n' then ['\\', 'n']
  else if c = '\r' then ['\\', 'r']
  else if c = '\t' then ['\\', 't']
  else if c.toNat < 0x20 then
    let digits := Text.hexDigits c.toNat
    ['\\', 'u'] ++ List.replicate (4 - digits.length) '0' ++ digits
  else [c]

/-- A text in quotes. -/
def writeString (s : String) : List Char :=
  '"' :: s.toList.flatMap writeChar ++ ['"']

end Json

mutual

/-- The compact written form of a value. -/
def Json.write : Json → List Char
  | .null => ['n', 'u', 'l', 'l']
  | .bool true => ['t', 'r', 'u', 'e']
  | .bool false => ['f', 'a', 'l', 's', 'e']
  | .number n => n.write
  | .string none => []
  | .string (some s) => Json.writeString s
  | .array items => '[' :: items.write ++ [']']
  | .object members => '\x7b' :: members.write ++ ['\x7d']
  | .broken => []

/-- Items with commas between them. -/
def Items.write : Items → List Char
  | .nil => []
  | .cons item .nil => item.write
  | .cons item rest => item.write ++ ',' :: rest.write

/-- Members with commas between them. -/
def Members.write : Members → List Char
  | .nil => []
  | .cons key value .nil => key.write ++ ':' :: value.write
  | .cons key value rest => key.write ++ ':' :: value.write ++ ',' :: rest.write

end

/-- The compact written form of a value as a text. -/
def Json.text (j : Json) : String :=
  String.ofList j.write

end Criteria
