import Criteria.Json
import Criteria.Decimal.Shortest

/-!
# The numbers that numerals mean

A numeral without a fraction and an exponent means an integer as long as that fits
64 bits, with or without a sign.  Any other numeral means a binary fraction, and so
does a negative zero.  Its digits are first gathered into a significand of 64 bits,
those that find no room being dropped, and the significand is then scaled by powers
of ten, none of which is larger than the 308th.  A numeral may be too large to mean
anything.
-/

namespace Criteria

/-- What a numeral means. -/
inductive Number where
  | integer (value : Int)
  | fraction (value : Float)

namespace Numeral

/-- The greatest significand. -/
def maxSignificand : Nat := 18446744073709551615

/-- The value of a digit. -/
def digitValue (c : Char) : Nat :=
  c.toNat - '0'.toNat

/-- The value of digits. -/
def digitsValue (digits : List Char) : Nat :=
  digits.foldl (fun n c => 10 * n + digitValue c) 0

/-- Appends digits to a significand while there is room; also how many were
appended and how many were not. -/
def gather (significand : Nat) : List Char → Nat × Nat × Nat
  | [] => (significand, 0, 0)
  | c :: rest =>
    let next := 10 * significand + digitValue c
    if next ≤ maxSignificand then
      let (s, taken, dropped) := gather next rest
      (s, taken + 1, dropped)
    else (significand, 0, rest.length + 1)

/-- The fraction next to a power of ten. -/
def powerOfTen (k : Nat) : Float :=
  Float.ofScientific 1 false k

/-- Divides by a power of ten, by at most the 308th at a time; what has become zero
stays zero. -/
def scaleDown (x : Float) (k : Nat) : Float :=
  if k ≤ 308 then x / powerOfTen k
  else if x == 0 then x
  else scaleDown (x / powerOfTen 308) (k - 308)
termination_by k

/-- A significand times a power of ten, if that is finite. -/
def scale? (significand : Nat) (exponent : Int) : Option Float :=
  let x := (UInt64.ofNat significand).toFloat
  if exponent < 0 then some (scaleDown x exponent.natAbs)
  else if 308 < exponent then if x == 0 then some x else none
  else
    let y := x * powerOfTen exponent.natAbs
    if y.isInf then none else some y

/-- The power of ten that a written exponent means; a numeral with a longer one is
either zero or too large. -/
def exponentLimit : Nat := 2147483647

/-- The size of a numeral as a fraction, if it is not too large. -/
def size? (n : Numeral) : Option Float :=
  let (whole, _, dropped) := gather 0 n.whole
  let (significand, taken, _) := gather whole (n.fraction.getD [])
  let shift : Int := dropped - taken
  match n.exponent with
  | none => scale? significand shift
  | some (negative, digits) =>
    let value := digitsValue digits
    if exponentLimit < value then
      if significand ≠ 0 ∧ !negative then none else some 0
    else scale? significand (if negative then shift - value else shift + value)

/-- A fraction with the sign of a numeral. -/
def signed (n : Numeral) (x : Float) : Number :=
  .fraction (if n.negative then -x else x)

/-- What a numeral means, unless it is too large. -/
def number? (n : Numeral) : Option Number :=
  let value := digitsValue n.whole
  if n.fraction.isNone ∧ n.exponent.isNone ∧ value ≤ maxSignificand then
    if !n.negative then some (.integer value)
    else if value = 0 ∨ 9223372036854775808 < value then
      some (n.signed (UInt64.ofNat value).toFloat)
    else some (.integer (-value))
  else n.size?.map n.signed

/-- The integer that a numeral spells without a fraction and an exponent. -/
def integer? (n : Numeral) : Option Int :=
  if n.fraction.isNone ∧ n.exponent.isNone then
    let value : Int := digitsValue n.whole
    some (if n.negative then -value else value)
  else none

end Numeral

end Criteria
