/-!
# The calendar

Dates of the proleptic Gregorian calendar, times of day, and the count of days
from 1970-01-01 in both directions.  Years run from -262143 to 262142, and a date
carries the proof that its day exists.  A time of day may read a leap second: a
second then goes on past its thousand million nanoseconds.
-/

namespace Criteria

/-- Whether a year has 366 days. -/
def isLeapYear (year : Int) : Bool :=
  year % 4 == 0 && (year % 100 != 0 || year % 400 == 0)

/-- The lengths of the twelve months of a year. -/
def monthLengths (year : Int) : List Nat :=
  [31, if isLeapYear year then 29 else 28, 31, 30, 31, 30, 31, 31, 30, 31, 30, 31]

/-- The length of a month counted from one; no days outside 1 to 12. -/
def daysInMonth (year : Int) (month : Nat) : Nat :=
  if month = 0 then 0 else (monthLengths year).getD (month - 1) 0

/-- The first year that has dates. -/
def minYear : Int := -262143

/-- The last year that has dates. -/
def maxYear : Int := 262142

/-- A day of the calendar. -/
structure Date where
  year : Int
  month : Nat
  day : Nat
  year_range : minYear ≤ year ∧ year ≤ maxYear
  month_range : 1 ≤ month ∧ month ≤ 12
  day_range : 1 ≤ day ∧ day ≤ daysInMonth year month
deriving DecidableEq, Repr

/-- The number of days from 1970-01-01 to the first day of a year. -/
def yearStart (year : Int) : Int :=
  365 * (year - 1970) + ((year - 1) / 4 - (year - 1) / 100 + (year - 1) / 400 - 477)

/-- The length of several months together. -/
def totalDays : List Nat → Nat
  | [] => 0
  | length :: rest => length + totalDays rest

/-- The number of days of a year before a month counted from one. -/
def daysBeforeMonth (year : Int) (month : Nat) : Nat :=
  totalDays ((monthLengths year).take (month - 1))

/-- The year that a day lies in, by its number from 1970-01-01: an estimate by
the mean length of a year, which is off by at most one, and its correction. -/
def yearOfDay (n : Int) : Int :=
  let estimate := (400 * n + 287763900) / 146097
  if n < yearStart estimate then estimate - 1
  else if yearStart (estimate + 1) ≤ n then estimate + 1
  else estimate

/-- The month, counted from `month`, and day of the month that the `n`-th day
falls on, counted from zero, for months of the given lengths. -/
def splitDays (month : Nat) : List Nat → Nat → Nat × Nat
  | [], n => (month, n + 1)
  | length :: rest, n =>
    if n < length then (month, n + 1) else splitDays (month + 1) rest (n - length)

namespace Date

/-- The date of a year, a month and a day, if there is one. -/
def of? (year : Int) (month day : Nat) : Option Date :=
  if hy : minYear ≤ year ∧ year ≤ maxYear then
    if hm : 1 ≤ month ∧ month ≤ 12 then
      if hd : 1 ≤ day ∧ day ≤ daysInMonth year month then
        some ⟨year, month, day, hy, hm, hd⟩
      else none
    else none
  else none

/-- The number of days from 1970-01-01. -/
def dayNumber (d : Date) : Int :=
  yearStart d.year + daysBeforeMonth d.year d.month + (d.day - 1)

/-- The date with a number of days from 1970-01-01, if its year has dates. -/
def ofDayNumber? (n : Int) : Option Date :=
  let year := yearOfDay n
  let (month, day) := splitDays 1 (monthLengths year) (n - yearStart year).toNat
  of? year month day

end Date

/-- A time of day to the nanosecond.  Adjusting a clock can leave it in any second
with more nanoseconds than the second has. -/
structure TimeOfDay where
  hour : Nat
  minute : Nat
  second : Nat
  nano : Nat
  hour_lt : hour < 24
  minute_lt : minute < 60
  second_lt : second < 60
  nano_lt : nano < 2000000000
deriving DecidableEq, Repr

namespace TimeOfDay

/-- The time of day that a clock is set to by four numbers, if it can be; only the
last second of a minute is given as a leap second. -/
def of? (hour minute second nano : Nat) : Option TimeOfDay :=
  if hh : hour < 24 then
    if hm : minute < 60 then
      if hs : second < 60 then
        if hn : nano < 1000000000 ∨ (second = 59 ∧ nano < 2000000000) then
          some ⟨hour, minute, second, nano, hh, hm, hs, by omega⟩
        else none
      else none
    else none
  else none

/-- The first moment of a day. -/
def midnight : TimeOfDay :=
  ⟨0, 0, 0, 0, by decide, by decide, by decide, by decide⟩

/-- The number of whole seconds since midnight. -/
def secondOfDay (t : TimeOfDay) : Nat :=
  3600 * t.hour + 60 * t.minute + t.second

/-- Whether the clock reads a leap second. -/
def isLeapSecond (t : TimeOfDay) : Bool :=
  decide (1000000000 ≤ t.nano)

/-- The time of day a number of seconds after midnight, modulo a day, and a
number of nanoseconds, modulo a second. -/
def ofSeconds (n nano : Nat) : TimeOfDay where
  hour := n / 3600 % 24
  minute := n / 60 % 60
  second := n % 60
  nano := nano % 1000000000
  hour_lt := Nat.mod_lt _ (by decide)
  minute_lt := Nat.mod_lt _ (by decide)
  second_lt := Nat.mod_lt _ (by decide)
  nano_lt := Nat.lt_trans (Nat.mod_lt _ (by decide)) (by decide : 1000000000 < 2000000000)

end TimeOfDay

/-- A date and a time of day, read in universal time. -/
structure DateTime where
  date : Date
  time : TimeOfDay
deriving DecidableEq, Repr

/-- A date and a time of day as shown by clocks that are ahead of universal time
by a number of seconds, less than a day either way. -/
structure ZonedDateTime where
  shown : DateTime
  ahead : Int
  ahead_range : -86400 < ahead ∧ ahead < 86400
deriving DecidableEq, Repr

namespace ZonedDateTime

/-- The zoned date time of a clock reading and an offset, if clocks have it. -/
def of? (shown : DateTime) (ahead : Int) : Option ZonedDateTime :=
  if h : -86400 < ahead ∧ ahead < 86400 then some ⟨shown, ahead, h⟩ else none

end ZonedDateTime

end Criteria
