import Criteria.Calendar
import Criteria.Keyword

/-!
# Instants

An instant is a count of nanoseconds from the start of 1970 in universal time
that fits 128 bits with sign.  Every way of dating things is converted to it, so
two of them can always be compared.  A leap second counts on past the end of its
second: converted, it runs into the next one.

An instant is written as a calendar date and time where its year has dates, with
three places after the seconds for whole milliseconds and nine otherwise, and as
its bare count elsewhere.
-/

namespace Criteria

/-- Nanoseconds in a second. -/
def nanosPerSecond : Int := 1000000000

/-- Nanoseconds in a millisecond. -/
def nanosPerMilli : Int := 1000000

/-- The least count of nanoseconds. -/
def minNanos : Int := -170141183460469231731687303715884105728

/-- The greatest count of nanoseconds. -/
def maxNanos : Int := 170141183460469231731687303715884105727

/-- A whole number in 64 bits with sign, if it fits. -/
def int64? (n : Int) : Option Int64 :=
  if Int64.minValue.toInt ≤ n ∧ n ≤ Int64.maxValue.toInt then some (.ofInt n) else none

/-- A number in 32 bits without sign, if it fits. -/
def uint32? (n : Nat) : Option UInt32 :=
  if n < UInt32.size then some (.ofNat n) else none

/-- An instant, as nanoseconds from the start of 1970 in universal time. -/
structure Timestamp where
  nanos : Int
  min_le : minNanos ≤ nanos
  le_max : nanos ≤ maxNanos
deriving DecidableEq, Repr

namespace Timestamp

/-- Instants with equal counts are equal. -/
@[ext] theorem ext {a b : Timestamp} (h : a.nanos = b.nanos) : a = b := by
  cases a
  cases b
  cases h
  rfl

/-- The instant with a count of nanoseconds, if it fits. -/
def ofNanos? (n : Int) : Option Timestamp :=
  if h : minNanos ≤ n ∧ n ≤ maxNanos then some ⟨n, h.1, h.2⟩ else none

/-- The instant a number of milliseconds from the start of 1970. -/
def ofMillis (m : Int64) : Timestamp where
  nanos := m.toInt * nanosPerMilli
  min_le := by
    have := Int64.minValue_le_toInt m
    have : (Int64.minValue).toInt = -9223372036854775808 := by decide
    unfold minNanos nanosPerMilli
    omega
  le_max := by
    have := Int64.toInt_lt m
    unfold maxNanos nanosPerMilli
    omega

/-- The instant a number of seconds from the start of 1970. -/
def ofSeconds (s : Int64) : Timestamp where
  nanos := s.toInt * nanosPerSecond
  min_le := by
    have := Int64.minValue_le_toInt s
    have : (Int64.minValue).toInt = -9223372036854775808 := by decide
    unfold minNanos nanosPerSecond
    omega
  le_max := by
    have := Int64.toInt_lt s
    unfold maxNanos nanosPerSecond
    omega

/-- The last whole millisecond at or before the instant. -/
def millis (t : Timestamp) : Int :=
  t.nanos / nanosPerMilli

/-- The last whole second at or before the instant. -/
def seconds (t : Timestamp) : Int :=
  t.nanos / nanosPerSecond

/-- The nanoseconds since the last whole second. -/
def subsecond (t : Timestamp) : Nat :=
  (t.nanos % nanosPerSecond).toNat

/-- The calendar reading of the instant, where its year has dates.  Seconds and nanoseconds
are narrowed first to what the calendar takes. -/
def toDateTime? (t : Timestamp) : Option DateTime := do
  let seconds ← int64? t.seconds
  let nano ← uint32? t.subsecond
  let date ← Date.ofDayNumber? (seconds.toInt / 86400)
  return { date, time := TimeOfDay.ofSeconds (seconds.toInt % 86400).toNat nano.toNat }

/-- Whether a comparison holds between a filter's instant and a record's. -/
def compareBy (op : DateOp) (filter record : Timestamp) : Bool :=
  op.eval filter.nanos record.nanos

end Timestamp

theorem daysBeforeMonth_le (year : Int) (month : Nat) : daysBeforeMonth year month ≤ 366 := by
  have hsum : ∀ (l : List Nat) (k : Nat), totalDays (l.take k) ≤ totalDays l := by
    intro l
    induction l with
    | nil => simp
    | cons a l ih =>
      intro k
      cases k with
      | zero => simp [totalDays]
      | succ k =>
        have := ih k
        simp only [List.take_succ_cons, totalDays]
        omega
  have := hsum (monthLengths year) (month - 1)
  have hyear : totalDays (monthLengths year) ≤ 366 := by
    unfold monthLengths
    cases isLeapYear year <;> decide
  unfold daysBeforeMonth
  omega

theorem daysInMonth_le (year : Int) (month : Nat) : daysInMonth year month ≤ 31 := by
  unfold daysInMonth
  split
  · omega
  · have hall : ∀ n ∈ monthLengths year, n ≤ 31 := by
      unfold monthLengths
      cases isLeapYear year <;> decide
    rw [List.getD_eq_getElem?_getD]
    cases h : (monthLengths year)[month - 1]? with
    | none => simp
    | some n => exact hall n (List.mem_of_getElem? h)

namespace Date

/-- Every day lies within a hundred million days of 1970-01-01. -/
theorem dayNumber_bounds (d : Date) :
    -100000000 ≤ d.dayNumber ∧ d.dayNumber ≤ 100000000 := by
  obtain ⟨hmin, hmax⟩ := d.year_range
  have hbefore := daysBeforeMonth_le d.year d.month
  have hday := d.day_range.2
  have hmonth := daysInMonth_le d.year d.month
  unfold minYear at hmin
  unfold maxYear at hmax
  unfold dayNumber yearStart
  omega

end Date

namespace DateTime

/-- The nanoseconds of a reading of universal time. -/
def nanos (t : DateTime) : Int :=
  (t.date.dayNumber * 86400 + t.time.secondOfDay) * nanosPerSecond + t.time.nano

theorem nanos_bounds (t : DateTime) :
    -10000000000000000000000 ≤ t.nanos ∧ t.nanos ≤ 10000000000000000000000 := by
  have hday := t.date.dayNumber_bounds
  have hhour := t.time.hour_lt
  have hminute := t.time.minute_lt
  have hsecond := t.time.second_lt
  have hnano := t.time.nano_lt
  unfold nanos TimeOfDay.secondOfDay nanosPerSecond
  omega

/-- The instant of a reading of universal time. -/
def toTimestamp (t : DateTime) : Timestamp where
  nanos := t.nanos
  min_le := by
    have := t.nanos_bounds
    unfold minNanos
    omega
  le_max := by
    have := t.nanos_bounds
    unfold maxNanos
    omega

end DateTime

namespace Date

/-- The instant at which a day begins in universal time. -/
def toTimestamp (d : Date) : Timestamp :=
  DateTime.toTimestamp ⟨d, .midnight⟩

end Date

namespace ZonedDateTime

/-- The instant at which clocks with an offset show a reading. -/
def toTimestamp (t : ZonedDateTime) : Timestamp where
  nanos := t.shown.nanos - t.ahead * nanosPerSecond
  min_le := by
    have := t.shown.nanos_bounds
    have := t.ahead_range
    unfold minNanos nanosPerSecond
    omega
  le_max := by
    have := t.shown.nanos_bounds
    have := t.ahead_range
    unfold maxNanos nanosPerSecond
    omega

end ZonedDateTime

/-! ## Written form -/

/-- A number in decimal with at least `width` digits. -/
def padded (width n : Nat) : List Char :=
  let digits := Nat.toDigits 10 n
  List.replicate (width - digits.length) '0' ++ digits

/-- A year with at least four digits; one before year 0 or after year 9999 has a
sign. -/
def yearText (year : Int) : List Char :=
  if year < 0 then '-' :: padded 4 year.natAbs
  else if 9999 < year then '+' :: padded 4 year.natAbs
  else padded 4 year.natAbs

/-- A number in decimal, with a sign if negative. -/
def intText (n : Int) : List Char :=
  if n < 0 then '-' :: Nat.toDigits 10 n.natAbs else Nat.toDigits 10 n.natAbs

namespace DateTime

/-- The reading without its fraction of a second. -/
def secondsText (t : DateTime) : List Char :=
  yearText t.date.year ++ ['-'] ++ padded 2 t.date.month ++ ['-'] ++ padded 2 t.date.day ++ ['T']
    ++ padded 2 t.time.hour ++ [':'] ++ padded 2 t.time.minute ++ [':'] ++ padded 2 t.time.second

end DateTime

namespace Timestamp

/-- The fraction of a second after the point: milliseconds if they say all,
nanoseconds otherwise. -/
def fractionText (t : Timestamp) : List Char :=
  if t.subsecond % 1000000 = 0 then padded 3 (t.subsecond / 1000000) else padded 9 t.subsecond

/-- The written form of an instant, as characters. -/
def chars (t : Timestamp) : List Char :=
  match t.toDateTime? with
  | some d => d.secondsText ++ ['.'] ++ t.fractionText ++ ['Z']
  | none => intText t.nanos ++ ['n', 's']

/-- The written form of an instant. -/
def text (t : Timestamp) : String :=
  String.ofList t.chars

end Timestamp

end Criteria
