import Criteria.Proofs.Timestamp.Calendar

/-!
# Instants in the order of their readings

Readings come in the order of their dates, then of their seconds, then of their nanoseconds.  The
instants that they are converted to come in the same order, except where a leap second counts on
into the second after it: there it passes the readings that begin that second, and meets one of them
exactly (`DateTime.order_toTimestamp`).
-/

namespace Criteria

/-- Two outcomes of a comparison that all operations take alike are one. -/
theorem DateOp.holdsFor_inj {o o' : Ordering} :
    (∀ op : DateOp, op.holdsFor o = op.holdsFor o') ↔ o = o' := by
  constructor
  · intro h
    have hlt := h .lessThan
    have heq := h .equality
    clear h
    revert hlt heq
    cases o <;> cases o' <;> decide
  · rintro rfl op
    rfl

theorem TimeOfDay.eq_of_secondOfDay_eq {t u : TimeOfDay} (hsecond : t.secondOfDay = u.secondOfDay)
    (hnano : t.nano = u.nano) : t = u := by
  cases t with
  | mk hour minute second nano hhour hminute hsec hlt =>
    cases u with
    | mk hour' minute' second' nano' hhour' hminute' hsec' hlt' =>
      simp only [secondOfDay] at hsecond
      simp only at hnano
      simp only [mk.injEq]
      omega

namespace DateTime

/-! ## Seconds -/

/-- The number of whole seconds from the start of 1970. -/
def secondNumber (a : DateTime) : Int :=
  a.date.dayNumber * 86400 + a.time.secondOfDay

theorem nanos_eq (a : DateTime) : a.nanos = a.secondNumber * nanosPerSecond + a.time.nano := rfl

/-- One reading lies in the second after another's: later on the same date, or first on the next
date after the last second of a date. -/
inductive NextSecond (a b : DateTime) : Prop
  | day (hdate : b.date = a.date) (hsecond : b.time.secondOfDay = a.time.secondOfDay + 1)
  | midnight (hdate : a.date.Next b.date) (hlast : a.time.secondOfDay = 86399)
      (hfirst : b.time.secondOfDay = 0)

theorem nextSecond_iff {a b : DateTime} :
    a.NextSecond b ↔ b.secondNumber = a.secondNumber + 1 := by
  have ha := a.time.secondOfDay_lt
  have hb := b.time.secondOfDay_lt
  unfold secondNumber
  constructor
  · intro h
    cases h with
    | day hdate hsecond =>
      rw [hdate, hsecond]
      omega
    | midnight hdate hlast hfirst =>
      rw [hdate.dayNumber_eq, hlast, hfirst]
      omega
  · intro h
    by_cases hlast : a.time.secondOfDay = 86399
    · have hday : b.date.dayNumber = a.date.dayNumber + 1 := by omega
      exact .midnight (Date.next_of_dayNumber_eq hday) hlast (by omega)
    · have hday : b.date.dayNumber = a.date.dayNumber := by omega
      exact .day (Date.eq_of_dayNumber_eq hday) (by omega)

/-! ## The order of readings -/

/-- The order of readings: by date, then by second of the day, then by nanosecond. -/
def order (a b : DateTime) : Ordering :=
  (a.date.order b.date).then
    ((compare a.time.secondOfDay b.time.secondOfDay).then (compare a.time.nano b.time.nano))

/-- Dates and seconds of the day together are ordered as the seconds that they count. -/
theorem order_eq (a b : DateTime) :
    a.order b = (compare a.secondNumber b.secondNumber).then (compare a.time.nano b.time.nano) := by
  have ha := a.time.secondOfDay_lt
  have hb := b.time.secondOfDay_lt
  have hseconds : (a.date.order b.date).then (compare a.time.secondOfDay b.time.secondOfDay)
      = compare a.secondNumber b.secondNumber := by
    rw [Date.order_eq_compare]
    unfold secondNumber
    rcases Int.lt_trichotomy a.date.dayNumber b.date.dayNumber with h | h | h
    · rw [Int.compare_eq_lt.2 h, Ordering.lt_then, Int.compare_eq_lt.2 (by omega)]
    · rw [Int.compare_eq_eq.2 h, Ordering.eq_then]
      rcases Nat.lt_trichotomy a.time.secondOfDay b.time.secondOfDay with h' | h' | h'
      · rw [Nat.compare_eq_lt.2 h', Int.compare_eq_lt.2 (by omega)]
      · rw [Nat.compare_eq_eq.2 h', Int.compare_eq_eq.2 (by omega)]
      · rw [Nat.compare_eq_gt.2 h', Int.compare_eq_gt.2 (by omega)]
    · rw [Int.compare_eq_gt.2 h, Ordering.gt_then, Int.compare_eq_gt.2 (by omega)]
  unfold order
  rw [← Ordering.then_assoc, hseconds]

theorem order_swap (a b : DateTime) : (a.order b).swap = b.order a := by
  rw [order_eq, order_eq, Ordering.swap_then, Int.compare_swap, Nat.compare_swap]

theorem order_eq_lt_iff {a b : DateTime} :
    a.order b = .lt ↔ a.secondNumber < b.secondNumber ∨
      a.secondNumber = b.secondNumber ∧ a.time.nano < b.time.nano := by
  rw [order_eq, Ordering.then_eq_lt, Int.compare_eq_lt, Int.compare_eq_eq, Nat.compare_eq_lt]

theorem order_eq_eq_iff {a b : DateTime} : a.order b = .eq ↔ a = b := by
  constructor
  · intro h
    unfold order at h
    rw [Ordering.then_eq_eq, Ordering.then_eq_eq, Nat.compare_eq_eq, Nat.compare_eq_eq] at h
    obtain ⟨hdate, hsecond, hnano⟩ := h
    cases a with
    | mk date time =>
      cases b with
      | mk date' time' =>
        rw [mk.injEq]
        exact ⟨Date.eq_of_order_eq hdate, TimeOfDay.eq_of_secondOfDay_eq hsecond hnano⟩
  · rintro rfl
    rw [order_eq, Int.compare_eq_eq.2 rfl, Nat.compare_eq_eq.2 rfl, Ordering.eq_then]

/-! ## Leap seconds -/

/-- A leap second counts on to another reading or past it: the other lies in the second after it,
and no further into that second than the leap second goes past its own. -/
structure Overruns (a b : DateTime) : Prop where
  second : a.NextSecond b
  nano : 1000000000 + b.time.nano ≤ a.time.nano

theorem overruns_iff {a b : DateTime} :
    a.Overruns b ↔
      b.secondNumber = a.secondNumber + 1 ∧ 1000000000 + b.time.nano ≤ a.time.nano := by
  rw [← nextSecond_iff]
  exact ⟨fun h => ⟨h.second, h.nano⟩, fun h => ⟨h.1, h.2⟩⟩

/-- An earlier reading has fewer nanoseconds unless it overruns the later one. -/
theorem nanos_lt_iff {a b : DateTime} (h : a.order b = .lt) :
    a.nanos < b.nanos ↔ ¬ a.Overruns b := by
  have ha := a.time.nano_lt
  have hb := b.time.nano_lt
  rw [order_eq_lt_iff] at h
  rw [overruns_iff, nanos_eq, nanos_eq]
  unfold nanosPerSecond
  omega

theorem not_overruns_of_order_lt {a b : DateTime} (h : a.order b = .lt) : ¬ b.Overruns a := by
  rw [order_eq_lt_iff] at h
  rw [overruns_iff]
  omega

/-- Nanoseconds are ordered as their readings are unless one reading overruns the other. -/
theorem compare_nanos_eq_order_iff {a b : DateTime} :
    compare a.nanos b.nanos = a.order b ↔ ¬ a.Overruns b ∧ ¬ b.Overruns a := by
  cases h : a.order b with
  | lt =>
    rw [Int.compare_eq_lt, nanos_lt_iff h]
    exact ⟨fun hab => ⟨hab, not_overruns_of_order_lt h⟩, fun hab => hab.1⟩
  | eq =>
    obtain rfl := order_eq_eq_iff.1 h
    have hself : ¬ a.Overruns a := by
      rw [overruns_iff]
      omega
    exact iff_of_true (Int.compare_eq_eq.2 rfl) ⟨hself, hself⟩
  | gt =>
    have hswap : b.order a = .lt := by rw [← order_swap, h, Ordering.swap_gt]
    rw [Int.compare_eq_gt, nanos_lt_iff hswap]
    exact ⟨fun hba => ⟨not_overruns_of_order_lt hswap, hba⟩, fun hba => hba.2⟩

/-- Two readings have one instant exactly if they are one, or one is a leap second that reaches the
other and goes no further. -/
theorem toTimestamp_eq_iff {a b : DateTime} :
    a.toTimestamp = b.toTimestamp ↔
      a = b ∨ (a.NextSecond b ∧ a.time.nano = 1000000000 + b.time.nano) ∨
        (b.NextSecond a ∧ b.time.nano = 1000000000 + a.time.nano) := by
  have ha := a.time.nano_lt
  have hb := b.time.nano_lt
  have hnanos : a.toTimestamp = b.toTimestamp ↔ a.nanos = b.nanos :=
    ⟨fun h => congrArg Timestamp.nanos h, fun h => Timestamp.ext h⟩
  rw [hnanos, nextSecond_iff, nextSecond_iff, nanos_eq, nanos_eq]
  unfold nanosPerSecond
  constructor
  · intro h
    by_cases hsecond : a.secondNumber = b.secondNumber
    · have hnano : a.time.nano = b.time.nano := by omega
      rw [← order_eq_eq_iff, order_eq, hsecond, hnano, Int.compare_eq_eq.2 rfl,
        Nat.compare_eq_eq.2 rfl]
      exact Or.inl rfl
    · exact Or.inr (by omega)
  · rintro (rfl | ⟨hsecond, hnano⟩ | ⟨hsecond, hnano⟩)
    · rfl
    · omega
    · omega

/-- **Which readings keep their order as instants.**  An earlier reading has an earlier instant
exactly if it is no leap second that overruns the later one.  Different readings have one instant
only if one is a leap second that goes on for as long as the other is into the second after it.  The
operations on instants say what they say of the readings exactly if neither overruns the other. -/
theorem order_toTimestamp (a b : DateTime) :
    (a.order b = .lt → (a.toTimestamp.nanos < b.toTimestamp.nanos ↔ ¬ a.Overruns b)) ∧
      (a.toTimestamp = b.toTimestamp ↔
        a = b ∨ (a.NextSecond b ∧ a.time.nano = 1000000000 + b.time.nano) ∨
          (b.NextSecond a ∧ b.time.nano = 1000000000 + a.time.nano)) ∧
      ((∀ op, Timestamp.compareBy op a.toTimestamp b.toTimestamp = op.holdsFor (a.order b)) ↔
        ¬ a.Overruns b ∧ ¬ b.Overruns a) := by
  refine ⟨nanos_lt_iff, toTimestamp_eq_iff, ?_⟩
  rw [← compare_nanos_eq_order_iff, ← DateOp.holdsFor_inj]
  rfl

/-- A leap second at the end of 2016 meets the start of 2017; half a second later it has passed
it. -/
theorem order_toTimestamp_leap_second :
    let date : Date := ⟨2016, 12, 31, by decide, by decide, by decide⟩
    let leap : DateTime :=
      ⟨date, ⟨23, 59, 59, 1000000000, by decide, by decide, by decide, by decide⟩⟩
    let late : DateTime :=
      ⟨date, ⟨23, 59, 59, 1500000000, by decide, by decide, by decide, by decide⟩⟩
    let newYear : DateTime := ⟨⟨2017, 1, 1, by decide, by decide, by decide⟩, .midnight⟩
    leap.order newYear = .lt ∧ leap.toTimestamp = newYear.toTimestamp ∧
      late.order newYear = .lt ∧ newYear.toTimestamp.nanos < late.toTimestamp.nanos := by
  decide

end DateTime

end Criteria
