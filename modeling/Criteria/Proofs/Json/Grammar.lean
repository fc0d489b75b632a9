import Criteria.Json.Reader
import Criteria.Json.Writer

/-!
# The grammar of the data format

Which characters spell a value, said without a reader: `j.SpeltAs cs` for the bare value and
`j.PaddedAs cs` with blanks around it.  A value has many spellings, for blanks may stand around
every part, a character of a string may be escaped, and an exponent has two letters.
-/

namespace Criteria

/-! ## Numbers -/

/-- Digits, at least one. -/
def IsDigits (cs : List Char) : Prop :=
  cs ≠ [] ∧ ∀ c ∈ cs, c.isDigit = true

namespace Numeral

/-- Whether digits may stand before a point: they begin with a zero only if there is no other. -/
def IsWhole (cs : List Char) : Prop :=
  cs = ['0'] ∨ IsDigits cs ∧ cs.head? ≠ some '0'

/-- The spelling of a fraction. -/
inductive FractionSpeltAs : Option (List Char) → List Char → Prop where
  | absent : FractionSpeltAs none []
  | point {digits : List Char} (hdigits : IsDigits digits) :
      FractionSpeltAs (some digits) ('.' :: digits)

/-- The spellings of the sign of an exponent. -/
inductive SignSpeltAs : Bool → List Char → Prop where
  | bare : SignSpeltAs false []
  | plus : SignSpeltAs false ['+']
  | minus : SignSpeltAs true ['-']

/-- The spellings of an exponent. -/
inductive ExponentSpeltAs : Option (Bool × List Char) → List Char → Prop where
  | absent : ExponentSpeltAs none []
  | letter {c : Char} {negative : Bool} {sign digits : List Char} (hletter : c = 'e' ∨ c = 'E')
      (hsign : SignSpeltAs negative sign) (hdigits : IsDigits digits) :
      ExponentSpeltAs (some (negative, digits)) (c :: (sign ++ digits))

/-- The sign of a numeral. -/
def minus (negative : Bool) : List Char :=
  if negative then ['-'] else []

/-- The spellings of a numeral. -/
inductive SpeltAs : Numeral → List Char → Prop where
  | parts {negative : Bool} {whole fs es : List Char} {fraction : Option (List Char)}
      {exponent : Option (Bool × List Char)} (hwhole : IsWhole whole)
      (hfraction : FractionSpeltAs fraction fs) (hexponent : ExponentSpeltAs exponent es) :
      SpeltAs ⟨negative, whole, fraction, exponent⟩ (minus negative ++ (whole ++ (fs ++ es)))

end Numeral

namespace Json

/-! ## Strings -/

/-- The letters of the short escapes, each with the character that it stands for. -/
def escapeLetters : List (Char × Char) :=
  [('"', '"'), ('\\', '\\'), ('/', '/'), ('b', '\x08'), ('f', '\x0c'), ('n', '\n'), ('r', '\r'),
    ('t', '\t')]

/-- The spellings of a unit of text. -/
inductive StringUnit.SpeltAs : StringUnit → List Char → Prop where
  | plain {c : Char} (hquote : c ≠ '"') (hslash : c ≠ '\\') (hcontrol : 0x20 ≤ c.toNat) :
      SpeltAs (.char c) [c]
  | short {letter c : Char} (hletter : (letter, c) ∈ escapeLetters) :
      SpeltAs (.char c) ['\\', letter]
  | code {a b c d : Char} {w x y z : Nat} (ha : hexValue? a = some w) (hb : hexValue? b = some x)
      (hc : hexValue? c = some y) (hd : hexValue? d = some z) :
      SpeltAs (.ofCode (((w * 16 + x) * 16 + y) * 16 + z)) ['\\', 'u', a, b, c, d]

/-- The spellings of units in sequence. -/
inductive UnitsSpeltAs : List StringUnit → List Char → Prop where
  | nil : UnitsSpeltAs [] []
  | cons {unit : StringUnit} {units : List StringUnit} {cs ds : List Char}
      (hunit : unit.SpeltAs cs) (hunits : UnitsSpeltAs units ds) :
      UnitsSpeltAs (unit :: units) (cs ++ ds)

/-! ## Values -/

/-- Whether there is nothing but blanks. -/
def Blank (cs : List Char) : Prop :=
  ∀ c ∈ cs, isBlank c = true

end Json

mutual

/-- The spellings of a value, without blanks around it. -/
inductive Json.SpeltAs : Json → List Char → Prop where
  | null : Json.SpeltAs .null ['n', 'u', 'l', 'l']
  | boolTrue : Json.SpeltAs (.bool true) ['t', 'r', 'u', 'e']
  | boolFalse : Json.SpeltAs (.bool false) ['f', 'a', 'l', 's', 'e']
  | number {n : Numeral} {cs : List Char} (hn : n.SpeltAs cs) : Json.SpeltAs (.number n) cs
  | string {units : List Json.StringUnit} {cs : List Char} (hunits : Json.UnitsSpeltAs units cs) :
      Json.SpeltAs (.string ((Json.joinUnits? units).map String.ofList)) ('"' :: (cs ++ ['"']))
  | emptyArray {cs : List Char} (hcs : Json.Blank cs) :
      Json.SpeltAs (.array .nil) ('[' :: (cs ++ [']']))
  | array {items : Items} {cs : List Char} (hitems : items.SpeltAs cs) :
      Json.SpeltAs (.array items) ('[' :: (cs ++ [']']))
  | emptyObject {cs : List Char} (hcs : Json.Blank cs) :
      Json.SpeltAs (.object .nil) ('\x7b' :: (cs ++ ['\x7d']))
  | object {members : Members} {cs : List Char} (hmembers : members.SpeltAs cs) :
      Json.SpeltAs (.object members) ('\x7b' :: (cs ++ ['\x7d']))

/-- The spellings of a value with blanks around it. -/
inductive Json.PaddedAs : Json → List Char → Prop where
  | pad {j : Json} {a cs b : List Char} (ha : Json.Blank a) (hj : j.SpeltAs cs)
      (hb : Json.Blank b) : Json.PaddedAs j (a ++ (cs ++ b))

/-- The spellings of items, at least one. -/
inductive Items.SpeltAs : Items → List Char → Prop where
  | last {item : Json} {cs : List Char} (hitem : item.PaddedAs cs) :
      Items.SpeltAs (.cons item .nil) cs
  | cons {item : Json} {rest : Items} {cs ds : List Char} (hitem : item.PaddedAs cs)
      (hrest : rest.SpeltAs ds) : Items.SpeltAs (.cons item rest) (cs ++ ',' :: ds)

/-- The spellings of members, at least one. -/
inductive Members.SpeltAs : Members → List Char → Prop where
  | last {key : Option String} {value : Json} {ks cs : List Char}
      (hkey : (Json.string key).PaddedAs ks) (hvalue : value.PaddedAs cs) :
      Members.SpeltAs (.cons (.string key) value .nil) (ks ++ ':' :: cs)
  | cons {key : Option String} {value : Json} {rest : Members} {ks cs ds : List Char}
      (hkey : (Json.string key).PaddedAs ks) (hvalue : value.PaddedAs cs)
      (hrest : rest.SpeltAs ds) :
      Members.SpeltAs (.cons (.string key) value rest) (ks ++ ':' :: (cs ++ ',' :: ds))

end

end Criteria
