/-!
# Shortest decimals of binary fractions

A finite 64-bit binary fraction stands for every real that rounds to it.  Among the
decimals in that interval the one with the fewest digits is its shortest decimal,
and of several with equally many digits the nearest.  Seventeen digits always
suffice.

Everything is computed exactly on natural numbers: a positive value is a quotient
`num / den`, and so are the ends of its interval over the same `den`.
-/

namespace Criteria.Decimal

/-- A power of two. -/
def twoTo (k : Nat) : Nat := Nat.pow 2 k

/-- A power of ten. -/
def tenTo (k : Nat) : Nat := Nat.pow 10 k

/-- A positive binary fraction with the interval of reals that round to it, as
numerators over a common denominator; the ends belong to it if `closed`. -/
structure Interval where
  low : Nat
  mid : Nat
  high : Nat
  den : Nat
  closed : Bool
deriving Repr

/-- Decimal digits and the power of ten that the last one counts. -/
structure Digits where
  digits : Nat
  exponent : Int
deriving DecidableEq, Repr

namespace Interval

/-- The interval of a positive finite fraction given by its bits without the sign.
The gap below a power of two is half as wide as the gap above. -/
def ofBits (bits : Nat) : Interval :=
  let field : Nat := bits / twoTo 52
  let fraction : Nat := bits % twoTo 52
  let significand := if field = 0 then fraction else fraction + twoTo 52
  let power : Int := (max field 1 : Nat) - 1075
  let below := if fraction = 0 ∧ 1 < field then 1 else 2
  let scale := twoTo power.toNat
  { low := (4 * significand - below) * scale
    mid := 4 * significand * scale
    high := (4 * significand + 2) * scale
    den := 4 * twoTo (-power).toNat
    closed := significand % 2 == 0 }

/-- Whether the decimal `c · 10 ^ e` rounds to the fraction. -/
def covers (i : Interval) (c : Nat) (e : Int) : Bool :=
  let value := c * tenTo e.toNat * i.den
  let unit := tenTo (-e).toNat
  if i.closed then decide (i.low * unit ≤ value) && decide (value ≤ i.high * unit)
  else decide (i.low * unit < value) && decide (value < i.high * unit)

/-- The distance of the decimal `c · 10 ^ e` from the fraction, in units that
depend on `e` only. -/
def distance (i : Interval) (c : Nat) (e : Int) : Nat :=
  let value := c * tenTo e.toNat * i.den
  let mid := i.mid * tenTo (-e).toNat
  (value - mid) + (mid - value)

/-- The neighbour of the fraction among the multiples of `10 ^ e` that rounds to
it, the nearer one if both do. -/
def neighbour? (i : Interval) (e : Int) : Option Digits :=
  let lower := i.mid * tenTo (-e).toNat / (i.den * tenTo e.toNat)
  let upper := lower + 1
  match i.covers lower e && decide (0 < lower), i.covers upper e with
  | true, true =>
    if i.distance upper e < i.distance lower e then some ⟨upper, e⟩ else some ⟨lower, e⟩
  | true, false => some ⟨lower, e⟩
  | false, true => some ⟨upper, e⟩
  | false, false => none

/-- The power of ten of the first digit of the fraction. -/
def magnitude (i : Interval) : Int :=
  if i.den ≤ i.mid then (Nat.toDigits 10 (i.mid / i.den)).length - 1
  else
    match (List.range 400).find? fun k => decide (i.den ≤ i.mid * tenTo k) with
    | some k => -k
    | none => -400

/-- The shortest decimal of the fraction. -/
def shortest (i : Interval) : Digits :=
  ((List.range 17).findSome? fun k : Nat => i.neighbour? (i.magnitude - k)).getD ⟨0, 0⟩

end Interval

/-- Drops the zeros at the end of a number's digits. -/
def Digits.trimmed (d : Digits) : Digits :=
  let zeros := ((Nat.toDigits 10 d.digits).reverse.takeWhile (· == '0')).length
  if d.digits = 0 then d else ⟨d.digits / tenTo zeros, d.exponent + zeros⟩

/-- A decimal with its point, or with an exponent and its sign where that would take
more than sixteen places before the point or five zeros after it. -/
def Digits.layout (d : Digits) : List Char :=
  let text := Nat.toDigits 10 d.digits
  let point : Int := text.length + d.exponent
  if 0 ≤ d.exponent ∧ point ≤ 16 then
    text ++ List.replicate d.exponent.toNat '0' ++ ['.', '0']
  else if 0 < point ∧ point ≤ 16 then
    text.take point.toNat ++ ['.'] ++ text.drop point.toNat
  else if -5 < point ∧ point ≤ 0 then
    ['0', '.'] ++ List.replicate (-point).toNat '0' ++ text
  else
    let fraction := match text.drop 1 with
      | [] => []
      | rest => '.' :: rest
    let scale := point - 1
    text.take 1 ++ fraction ++ ['e'] ++ [if scale < 0 then '-' else '+']
      ++ Nat.toDigits 10 scale.natAbs

/-- The shortest decimal of a finite 64-bit fraction, laid out, with its sign. -/
def shortestText (x : Float) : List Char :=
  let bits := x.toBits.toNat
  let sign := if bits / twoTo 63 = 1 then ['-'] else []
  let magnitude := bits % twoTo 63
  sign ++
    if magnitude = 0 then ['0', '.', '0']
    else (Interval.ofBits magnitude).shortest.trimmed.layout

end Criteria.Decimal
