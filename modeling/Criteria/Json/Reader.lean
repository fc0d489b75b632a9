import Criteria.Json

/-!
# Reading JSON text

A reader takes characters from the front of a text and returns what is left.  Each
reader of values ends at the first fault with `broken`; the text after a fault is
dropped, so every value around the fault ends there as well.

Nesting is bounded by the number of characters, which serves as the measure of the
recursion.
-/

namespace Criteria.Json

/-- The blanks that may stand around any part of a value. -/
def isBlank (c : Char) : Bool :=
  c == ' ' || c == '\t' || c == '\n' || c == '\r'

/-- Drops blanks. -/
def skipBlanks (cs : List Char) : List Char :=
  cs.dropWhile isBlank

/-- The rest of a text that begins with a word. -/
def afterWord? : List Char → List Char → Option (List Char)
  | [], cs => some cs
  | _ :: _, [] => none
  | w :: word, c :: cs => if w = c then afterWord? word cs else none

/-! ## Numbers -/

/-- The digits at the front of a text, and what is left. -/
def takeDigits (cs : List Char) : List Char × List Char :=
  (cs.takeWhile Char.isDigit, cs.dropWhile Char.isDigit)

/-- The integer part: a lone zero, or digits of which the first is no zero. -/
def readWhole? (cs : List Char) : Option (List Char × List Char) :=
  match takeDigits cs with
  | ([], _) => none
  | (['0'], rest) => some (['0'], rest)
  | ('0' :: _, _) => none
  | (digits, rest) => some (digits, rest)

/-- The fraction, if a point follows. -/
def readFraction? : List Char → Option (Option (List Char) × List Char)
  | '.' :: cs =>
    match takeDigits cs with
    | ([], _) => none
    | (digits, rest) => some (some digits, rest)
  | cs => some (none, cs)

/-- The digits of an exponent after its sign. -/
def readExponentDigits? (negative : Bool) (cs : List Char) :
    Option (Option (Bool × List Char) × List Char) :=
  match takeDigits cs with
  | ([], _) => none
  | (digits, rest) => some (some (negative, digits), rest)

/-- The exponent, if its letter follows. -/
def readExponent? : List Char → Option (Option (Bool × List Char) × List Char)
  | c :: cs =>
    if c = 'e' ∨ c = 'E' then
      match cs with
      | '-' :: cs => readExponentDigits? true cs
      | '+' :: cs => readExponentDigits? false cs
      | cs => readExponentDigits? false cs
    else some (none, c :: cs)
  | [] => some (none, [])

/-- A number after its sign. -/
def readNumeral? (negative : Bool) (cs : List Char) : Option (Numeral × List Char) := do
  let (whole, cs) ← readWhole? cs
  let (fraction, cs) ← readFraction? cs
  let (exponent, cs) ← readExponent? cs
  return (⟨negative, whole, fraction, exponent⟩, cs)

/-! ## Strings -/

/-- The value of a hexadecimal digit. -/
def hexValue? (c : Char) : Option Nat :=
  if '0' ≤ c ∧ c ≤ '9' then some (c.toNat - '0'.toNat)
  else if 'a' ≤ c ∧ c ≤ 'f' then some (c.toNat - 'a'.toNat + 10)
  else if 'A' ≤ c ∧ c ≤ 'F' then some (c.toNat - 'A'.toNat + 10)
  else none

/-- A unit of text inside quotes: a character, or half of a surrogate pair. -/
inductive StringUnit where
  | char (c : Char)
  | half (code : Nat)
deriving DecidableEq, Repr

/-- The unit with a code of sixteen bits. -/
def StringUnit.ofCode (code : Nat) : StringUnit :=
  if 0xD800 ≤ code ∧ code < 0xE000 then .half code else .char (Char.ofNat code)

/-- The unit that an escape stands for, after the backslash. -/
def readEscape? : List Char → Option (StringUnit × List Char)
  | '"' :: cs => some (.char '"', cs)
  | '\\' :: cs => some (.char '\\', cs)
  | '/' :: cs => some (.char '/', cs)
  | 'b' :: cs => some (.char '\x08', cs)
  | 'f' :: cs => some (.char '\x0c', cs)
  | 'n' :: cs => some (.char '\n', cs)
  | 'r' :: cs => some (.char '\r', cs)
  | 't' :: cs => some (.char '\t', cs)
  | 'u' :: a :: b :: c :: d :: cs => do
    let code := (((← hexValue? a) * 16 + (← hexValue? b)) * 16 + (← hexValue? c)) * 16
      + (← hexValue? d)
    return (.ofCode code, cs)
  | _ => none

theorem length_lt_of_readEscape? {cs rest : List Char} {u : StringUnit}
    (h : readEscape? cs = some (u, rest)) : rest.length < cs.length := by
  unfold readEscape? at h
  split at h <;> first
    | (simp only [Option.some.injEq, Prod.mk.injEq] at h
       obtain ⟨-, rfl⟩ := h
       simp)
    | (simp only [Option.bind_eq_bind, Option.pure_def, Option.bind_eq_some_iff] at h
       obtain ⟨_, -, _, -, _, -, _, -, h⟩ := h
       simp only [Option.some.injEq, Prod.mk.injEq] at h
       obtain ⟨-, rfl⟩ := h
       simp
       omega)
    | simp at h

/-- The units up to the closing quote, and what is left after it. -/
def readUnits? (cs : List Char) : Option (List StringUnit × List Char) :=
  match cs with
  | [] => none
  | '"' :: rest => some ([], rest)
  | '\\' :: rest =>
    match h : readEscape? rest with
    | none => none
    | some (unit, rest') =>
      have : rest'.length < rest.length := length_lt_of_readEscape? h
      (readUnits? rest').map fun r => (unit :: r.1, r.2)
  | c :: rest =>
    if c.toNat < 0x20 then none else (readUnits? rest).map fun r => (.char c :: r.1, r.2)
termination_by cs.length
decreasing_by all_goals (simp_all; try omega)

/-- The characters of units, two halves that belong together making one; none if a
half stands alone. -/
def joinUnits? : List StringUnit → Option (List Char)
  | [] => some []
  | .char c :: rest => (joinUnits? rest).map (c :: ·)
  | .half high :: .half low :: rest =>
    if high < 0xDC00 ∧ 0xDC00 ≤ low then
      (joinUnits? rest).map
        (Char.ofNat (0x10000 + (high - 0xD800) * 0x400 + (low - 0xDC00)) :: ·)
    else none
  | .half _ :: _ => none

/-- A string after its opening quote. -/
def readString? (cs : List Char) : Option (Option String × List Char) :=
  (readUnits? cs).map fun r => ((joinUnits? r.1).map String.ofList, r.2)

/-! ## Values -/

/-- A value with what is left, or a fault. -/
def orBroken {α : Type} (f : α → Json) : Option (α × List Char) → Json × List Char
  | some (x, rest) => (f x, rest)
  | none => (.broken, [])

/-- Reads a word that stands for a value. -/
def readWord (word : List Char) (value : Json) (cs : List Char) : Json × List Char :=
  orBroken (fun _ => value) ((afterWord? word cs).map fun rest => ((), rest))

mutual

/-- Reads a value after blanks. -/
def readValue : Nat → List Char → Json × List Char
  | 0, _ => (.broken, [])
  | fuel + 1, cs =>
    match skipBlanks cs with
    | [] => (.broken, [])
    | 'n' :: rest => readWord ['u', 'l', 'l'] .null rest
    | 't' :: rest => readWord ['r', 'u', 'e'] (.bool true) rest
    | 'f' :: rest => readWord ['a', 'l', 's', 'e'] (.bool false) rest
    | '"' :: rest => orBroken .string (readString? rest)
    | '-' :: rest => orBroken .number (readNumeral? true rest)
    | '[' :: rest =>
      match skipBlanks rest with
      | ']' :: rest => (.array .nil, rest)
      | rest => let (items, rest) := readItems fuel rest; (.array items, rest)
    | '\x7b' :: rest =>
      match skipBlanks rest with
      | '\x7d' :: rest => (.object .nil, rest)
      | rest => let (members, rest) := readMembers fuel rest; (.object members, rest)
    | c :: rest =>
      if c.isDigit then orBroken .number (readNumeral? false (c :: rest)) else (.broken, [])

/-- Reads the items of an array, at least one, and its closing bracket. -/
def readItems : Nat → List Char → Items × List Char
  | 0, _ => (.cons .broken .nil, [])
  | fuel + 1, cs =>
    let (item, rest) := readValue fuel cs
    match skipBlanks rest with
    | ']' :: rest => (.cons item .nil, rest)
    | ',' :: rest => let (items, rest) := readItems fuel rest; (.cons item items, rest)
    | _ => (.cons item (.cons .broken .nil), [])

/-- Reads the members of an object, at least one, and its closing brace. -/
def readMembers : Nat → List Char → Members × List Char
  | 0, _ => (.cons .broken .broken .nil, [])
  | fuel + 1, cs =>
    match readValue fuel cs with
    | (.string key, rest) =>
      match skipBlanks rest with
      | ':' :: rest =>
        let (value, rest) := readValue fuel rest
        match skipBlanks rest with
        | '\x7d' :: rest => (.cons (.string key) value .nil, rest)
        | ',' :: rest =>
          let (members, rest) := readMembers fuel rest
          (.cons (.string key) value members, rest)
        | _ => (.cons (.string key) value (.cons .broken .broken .nil), [])
      | _ => (.cons (.string key) .broken .nil, [])
    | (other, _) => (.cons other .broken .nil, [])

end

/-- The value at the front of a text, and whether only blanks follow it. -/
def read (s : String) : Json × Bool :=
  let cs := s.toList
  let (value, rest) := readValue (2 * cs.length + 2) cs
  (value, (skipBlanks rest).isEmpty)

end Criteria.Json
