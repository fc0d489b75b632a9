import Criteria.Proofs.Timestamp

/-!
# Instants and the calendar

An instant has a calendar reading exactly if it lies between the first and the last reading of the
calendar (`Timestamp.isSome_toDateTime?_iff`).  The reading is the one date and time of day without
a leap second that is converted to the instant (`Timestamp.toDateTime?_eq_some_iff_toTimestamp`).
-/

namespace Criteria

namespace TimeOfDay

theorem isLeapSecond_eq_false_iff {t : TimeOfDay} :
    t.isLeapSecond = false ↔ t.nano < 1000000000 := by
  simp [isLeapSecond]

theorem secondOfDay_lt (t : TimeOfDay) : t.secondOfDay < 86400 := by
  have hhour := t.hour_lt
  have hminute := t.minute_lt
  have hsecond := t.second_lt
  unfold secondOfDay
  omega

theorem ofSeconds_secondOfDay {t : TimeOfDay} (h : t.isLeapSecond = false) :
    ofSeconds t.secondOfDay t.nano = t := by
  have hnano := isLeapSecond_eq_false_iff.1 h
  cases t with
  | mk hour minute second nano hhour hminute hsecond hrange =>
    simp only at hnano
    simp only [ofSeconds, secondOfDay, mk.injEq]
    omega

end TimeOfDay

namespace DateTime

/-- The first reading of the calendar. -/
def first : DateTime where
  date := ⟨-262143, 1, 1, by decide, by decide, by decide⟩
  time := .midnight

/-- The last reading of the calendar. -/
def last : DateTime where
  date := ⟨262142, 12, 31, by decide, by decide, by decide⟩
  time := ⟨23, 59, 59, 999999999, by decide, by decide, by decide, by decide⟩

theorem nanos_first : first.nanos = yearStart minYear * 86400 * nanosPerSecond := by decide

theorem nanos_last : last.nanos = yearStart (maxYear + 1) * 86400 * nanosPerSecond - 1 := by decide

end DateTime

namespace Timestamp

/-- The instants that have a calendar reading. -/
theorem isSome_toDateTime?_iff {t : Timestamp} :
    t.toDateTime?.isSome = true ↔
      DateTime.first.nanos ≤ t.nanos ∧ t.nanos ≤ DateTime.last.nanos := by
  have hdate : t.toDateTime?.isSome = true ↔ ∃ d : Date, d.dayNumber = t.seconds / 86400 := by
    simp only [toDateTime?_eq, Option.isSome_map, Option.isSome_iff_exists,
      Date.ofDayNumber?_eq_some_iff]
  rw [hdate, Date.exists_dayNumber_eq_iff, DateTime.nanos_first, DateTime.nanos_last]
  generalize yearStart minYear = start
  generalize yearStart (maxYear + 1) = stop
  unfold seconds nanosPerSecond
  omega

/-- A reading without a leap second is the reading of the instant that it is converted to. -/
theorem toDateTime?_toTimestamp {d : DateTime} (h : d.time.isLeapSecond = false) :
    d.toTimestamp.toDateTime? = some d := by
  have hnano := TimeOfDay.isLeapSecond_eq_false_iff.1 h
  have hclock := d.time.secondOfDay_lt
  have hseconds : d.toTimestamp.seconds = d.date.dayNumber * 86400 + d.time.secondOfDay := by
    simp only [seconds, DateTime.toTimestamp, DateTime.nanos, nanosPerSecond]
    omega
  have hsubsecond : d.toTimestamp.subsecond = d.time.nano := by
    simp only [subsecond, DateTime.toTimestamp, DateTime.nanos, nanosPerSecond]
    omega
  have hday : d.toTimestamp.seconds / 86400 = d.date.dayNumber := by omega
  have htime : (d.toTimestamp.seconds % 86400).toNat = d.time.secondOfDay := by omega
  rw [toDateTime?_eq_some_iff, hday, htime, hsubsecond]
  exact ⟨Date.ofDayNumber?_dayNumber d.date, (TimeOfDay.ofSeconds_secondOfDay h).symm⟩

/-- The reading of an instant is the one without a leap second that is converted to it. -/
theorem toDateTime?_eq_some_iff_toTimestamp {t : Timestamp} {d : DateTime} :
    t.toDateTime? = some d ↔ d.toTimestamp = t ∧ d.time.isLeapSecond = false := by
  constructor
  · intro h
    refine ⟨ext (nanos_of_toDateTime? h), TimeOfDay.isLeapSecond_eq_false_iff.2 ?_⟩
    rw [nano_of_toDateTime? h]
    exact t.subsecond_lt
  · rintro ⟨rfl, h⟩
    exact toDateTime?_toTimestamp h

/-- The seconds of an instant with a calendar reading fit 64 bits. -/
theorem exists_int64_seconds {t : Timestamp} {d : DateTime} (h : t.toDateTime? = some d) :
    ∃ s : Int64, s.toInt = t.seconds := by
  obtain ⟨s, hs, -⟩ := Option.bind_eq_some_iff.1 h
  exact ⟨s, int64?_eq_some_iff.1 hs⟩

/-- A day later the clock shows the same time on the next date. -/
theorem toDateTime?_next {t u : Timestamp} {d : DateTime} {e : Date} (h : t.toDateTime? = some d)
    (hnext : d.date.Next e) (hday : u.nanos = t.nanos + 86400 * nanosPerSecond) :
    u.toDateTime? = some ⟨e, d.time⟩ := by
  obtain ⟨hd, hleap⟩ := toDateTime?_eq_some_iff_toTimestamp.1 h
  refine toDateTime?_eq_some_iff_toTimestamp.2 ⟨ext ?_, hleap⟩
  have hnanos : d.nanos = t.nanos := congrArg nanos hd
  have hdate := hnext.dayNumber_eq
  change DateTime.nanos ⟨e, d.time⟩ = u.nanos
  rw [hday, ← hnanos]
  simp only [DateTime.nanos, hdate, nanosPerSecond]
  omega

/-- **Instants survive the conversion to the calendar and back.**  An instant has a reading exactly
between the first and the last reading of the calendar.  The reading is the one without a leap
second that is converted to the instant, by a clock of universal time too, and a day later the clock
shows the same time on the next date.  Its seconds fit 64 bits. -/
theorem calendar_roundTrip (t : Timestamp) :
    (t.toDateTime?.isSome = true ↔
      DateTime.first.nanos ≤ t.nanos ∧ t.nanos ≤ DateTime.last.nanos) ∧
    (∀ d, t.toDateTime? = some d ↔ d.toTimestamp = t ∧ d.time.isLeapSecond = false) ∧
    (∀ z : ZonedDateTime, z.ahead = 0 →
      (t.toDateTime? = some z.shown ↔
        z.toTimestamp = t ∧ z.shown.time.isLeapSecond = false)) ∧
    ∀ d, t.toDateTime? = some d →
      (∃ s : Int64, s.toInt = t.seconds) ∧
      ∀ (e : Date) (u : Timestamp), d.date.Next e →
        u.nanos = t.nanos + 86400 * nanosPerSecond → u.toDateTime? = some ⟨e, d.time⟩ := by
  refine ⟨isSome_toDateTime?_iff, fun d => toDateTime?_eq_some_iff_toTimestamp, fun z hz => ?_,
    fun d h => ⟨exists_int64_seconds h, fun e u => toDateTime?_next h⟩⟩
  have hutc : z.toTimestamp = z.shown.toTimestamp := ext (by
    simp only [ZonedDateTime.toTimestamp, DateTime.toTimestamp, hz]
    omega)
  rw [hutc]
  exact toDateTime?_eq_some_iff_toTimestamp

-- An instant before 1970 is read from the second that it lies in, not from the next one.
example :
    (⟨-1, by decide, by decide⟩ : Timestamp).toDateTime? =
      some ⟨⟨1969, 12, 31, by decide, by decide, by decide⟩,
        ⟨23, 59, 59, 999999999, by decide, by decide, by decide, by decide⟩⟩ := by
  decide

end Timestamp

end Criteria
