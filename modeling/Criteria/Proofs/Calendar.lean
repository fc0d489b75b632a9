import Criteria.Timestamp

/-!
# Days and dates

Days and dates correspond one to one.  The year found for a day has begun by then and has not ended
(`yearStart_yearOfDay_le`, `lt_yearStart_yearOfDay_succ`), and its months cut its days into blocks,
so the date found for a day number is the one date with that number
(`Date.ofDayNumber?_eq_some_iff`).  The days that have a date are those of the years that have dates
(`Date.exists_dayNumber_eq_iff`), and the date of the next day is the next date of the calendar
(`Date.Next.dayNumber_eq`, `Date.next_of_dayNumber_eq`).  Dates come in the order of their numbers
(`Date.order_eq_compare`).
-/

namespace Criteria

/-! ## Years -/

/-- The year of a day has begun by that day. -/
theorem yearStart_yearOfDay_le (n : Int) : yearStart (yearOfDay n) ≤ n := by
  unfold yearOfDay
  simp only
  split
  · next hbefore =>
    unfold yearStart at *
    omega
  split
  · next hafter => exact hafter
  · next hbefore _ => exact Int.not_lt.1 hbefore

/-- The year of a day has not ended before that day. -/
theorem lt_yearStart_yearOfDay_succ (n : Int) : n < yearStart (yearOfDay n + 1) := by
  unfold yearOfDay
  simp only
  split
  · next hbefore =>
    rw [Int.sub_add_cancel]
    exact hbefore
  split
  · next hafter =>
    unfold yearStart at *
    omega
  · next hbefore => exact Int.not_le.1 hbefore

theorem yearStart_mono {y z : Int} (h : y ≤ z) : yearStart y ≤ yearStart z := by
  unfold yearStart
  omega

/-- A day between the starts of two years lies in a year between them. -/
theorem yearOfDay_mem {y z n : Int} (hy : yearStart y ≤ n) (hz : n < yearStart z) :
    y ≤ yearOfDay n ∧ yearOfDay n < z := by
  have hstart := yearStart_yearOfDay_le n
  have hend := lt_yearStart_yearOfDay_succ n
  constructor
  · refine Int.not_lt.1 fun hlt => ?_
    have hle := yearStart_mono (Int.add_one_le_of_lt hlt)
    omega
  · refine Int.not_le.1 fun hge => ?_
    have hle := yearStart_mono hge
    omega

theorem totalDays_monthLengths (year : Int) :
    totalDays (monthLengths year) = if isLeapYear year then 366 else 365 := by
  unfold monthLengths
  cases isLeapYear year <;> rfl

/-- A year is as long as its months together. -/
theorem yearStart_succ (year : Int) :
    yearStart (year + 1) = yearStart year + totalDays (monthLengths year) := by
  have hleap : isLeapYear year = true ↔ year % 4 = 0 ∧ (year % 100 ≠ 0 ∨ year % 400 = 0) := by
    simp [isLeapYear]
  rw [totalDays_monthLengths]
  unfold yearStart
  split
  · next h =>
    rw [hleap] at h
    omega
  · next h =>
    rw [hleap] at h
    omega

/-! ## Months -/

/-- The whole months before a day of the year and the day of its month add up to the day. -/
theorem splitDays_spec (month : Nat) (lengths : List Nat) (n : Nat) :
    month ≤ (splitDays month lengths n).1 ∧ 1 ≤ (splitDays month lengths n).2 ∧
      totalDays (lengths.take ((splitDays month lengths n).1 - month))
        + (splitDays month lengths n).2 = n + 1 := by
  induction lengths generalizing month n with
  | nil => simp [splitDays, totalDays]
  | cons length rest ih =>
    unfold splitDays
    split
    · simp [totalDays]
    · next hge =>
      obtain ⟨hmonth, hday, hsum⟩ := ih (month + 1) (n - length)
      refine ⟨by omega, hday, ?_⟩
      have htake : (splitDays (month + 1) rest (n - length)).1 - month
          = (splitDays (month + 1) rest (n - length)).1 - (month + 1) + 1 := by omega
      rw [htake, List.take_succ_cons, totalDays]
      omega

theorem totalDays_append (lengths more : List Nat) :
    totalDays (lengths ++ more) = totalDays lengths + totalDays more := by
  induction lengths with
  | nil => simp [totalDays]
  | cons length rest ih =>
    simp only [List.cons_append, totalDays, ih]
    omega

/-- The months up to and including one are longer by that one. -/
theorem totalDays_take_succ {lengths : List Nat} {k length : Nat}
    (h : lengths[k]? = some length) :
    totalDays (lengths.take (k + 1)) = totalDays (lengths.take k) + length := by
  rw [List.take_add_one, h, totalDays_append]
  simp [totalDays]

theorem totalDays_take_le (lengths : List Nat) (k : Nat) :
    totalDays (lengths.take k) ≤ totalDays lengths := by
  have hsum := totalDays_append (lengths.take k) (lengths.drop k)
  rw [List.take_append_drop] at hsum
  omega

theorem totalDays_take_mono (lengths : List Nat) {j k : Nat} (h : j ≤ k) :
    totalDays (lengths.take j) ≤ totalDays (lengths.take k) := by
  have hle := totalDays_take_le (lengths.take k) j
  rwa [List.take_take, Nat.min_eq_left h] at hle

/-- A day of a month is split into that month and that day. -/
theorem splitDays_take {lengths : List Nat} {k j length : Nat} (month : Nat)
    (hk : lengths[k]? = some length) (hj : j < length) :
    splitDays month lengths (totalDays (lengths.take k) + j) = (month + k, j + 1) := by
  induction lengths generalizing month k with
  | nil => cases hk
  | cons first rest ih =>
    cases k with
    | zero =>
      cases hk
      simp only [List.take_zero, totalDays, Nat.zero_add, splitDays, if_pos hj, Nat.add_zero]
    | succ k =>
      have hge : ¬ first + totalDays (rest.take k) + j < first := by omega
      have hrest : first + totalDays (rest.take k) + j - first = totalDays (rest.take k) + j := by
        omega
      simp only [List.take_succ_cons, totalDays, splitDays, if_neg hge, hrest]
      rw [ih (month + 1) hk, Nat.add_assoc, Nat.add_comm 1]

/-- Every day of a year lies in one of its months. -/
theorem exists_month {lengths : List Nat} {n : Nat} (h : n < totalDays lengths) :
    ∃ k j length, lengths[k]? = some length ∧ j < length ∧
      n = totalDays (lengths.take k) + j := by
  induction lengths generalizing n with
  | nil => exact absurd h (Nat.not_lt_zero n)
  | cons first rest ih =>
    by_cases hn : n < first
    · exact ⟨0, n, first, rfl, hn, (Nat.zero_add n).symm⟩
    · rw [totalDays] at h
      obtain ⟨k, j, length, hk, hj, hsum⟩ := ih (n := n - first) (by omega)
      refine ⟨k + 1, j, length, hk, hj, ?_⟩
      rw [List.take_succ_cons, totalDays]
      omega

theorem getElem?_monthLengths (year : Int) {month : Nat} (h : 1 ≤ month ∧ month ≤ 12) :
    (monthLengths year)[month - 1]? = some (daysInMonth year month) := by
  have hlt : month - 1 < (monthLengths year).length := by
    have hlength : (monthLengths year).length = 12 := rfl
    omega
  unfold daysInMonth
  rw [if_neg (by omega), List.getD_eq_getElem?_getD, List.getElem?_eq_getElem hlt]
  rfl

theorem daysInMonth_pos (year : Int) {month : Nat} (h : 1 ≤ month ∧ month ≤ 12) :
    1 ≤ daysInMonth year month := by
  have hpos : ∀ length ∈ monthLengths year, 1 ≤ length := by
    unfold monthLengths
    cases isLeapYear year <;> decide
  exact hpos _ (List.mem_of_getElem? (getElem?_monthLengths year h))

/-! ## Dates -/

namespace Date

theorem of?_eq_some_iff {year : Int} {month day : Nat} {d : Date} :
    of? year month day = some d ↔ d.year = year ∧ d.month = month ∧ d.day = day := by
  constructor
  · intro h
    unfold of? at h
    split at h
    · split at h
      · split at h
        · cases h
          exact ⟨rfl, rfl, rfl⟩
        · cases h
      · cases h
    · cases h
  · rintro ⟨rfl, rfl, rfl⟩
    unfold of?
    rw [dif_pos d.year_range, dif_pos d.month_range, dif_pos d.day_range]

/-- A day of the calendar is its year, its month and its day. -/
theorem eq_of_fields {d e : Date} (hyear : d.year = e.year) (hmonth : d.month = e.month)
    (hday : d.day = e.day) : d = e := by
  have hd := of?_eq_some_iff.2 ⟨hyear, hmonth, hday⟩
  rw [of?_eq_some_iff.2 ⟨rfl, rfl, rfl⟩] at hd
  exact (Option.some.inj hd).symm

/-- The date found for a day number is the date of that day. -/
theorem dayNumber_of_ofDayNumber? {n : Int} {d : Date} (h : ofDayNumber? n = some d) :
    d.dayNumber = n := by
  have hstart := yearStart_yearOfDay_le n
  obtain ⟨hmonth, hday, hsum⟩ :=
    splitDays_spec 1 (monthLengths (yearOfDay n)) (n - yearStart (yearOfDay n)).toNat
  simp only [ofDayNumber?, of?_eq_some_iff] at h
  obtain ⟨hy, hm, hd⟩ := h
  unfold dayNumber daysBeforeMonth
  rw [hy, hm, hd]
  omega

/-- A date lies in its year. -/
theorem dayNumber_mem_year (d : Date) :
    yearStart d.year ≤ d.dayNumber ∧ d.dayNumber < yearStart (d.year + 1) := by
  have hsum := totalDays_take_succ (getElem?_monthLengths d.year d.month_range)
  have hle := totalDays_take_le (monthLengths d.year) (d.month - 1 + 1)
  obtain ⟨hfirst, hlast⟩ := d.day_range
  rw [yearStart_succ]
  unfold dayNumber daysBeforeMonth
  omega

theorem ofDayNumber?_dayNumber (d : Date) : ofDayNumber? d.dayNumber = some d := by
  obtain ⟨hstart, hend⟩ := d.dayNumber_mem_year
  have hmem := yearOfDay_mem hstart hend
  have hyear : yearOfDay d.dayNumber = d.year := by omega
  obtain ⟨hfirst, hlast⟩ := d.day_range
  have hday : (d.dayNumber - yearStart d.year).toNat =
      totalDays ((monthLengths d.year).take (d.month - 1)) + (d.day - 1) := by
    unfold dayNumber daysBeforeMonth
    omega
  have hsplit := splitDays_take 1 (getElem?_monthLengths d.year d.month_range)
    (show d.day - 1 < daysInMonth d.year d.month by omega)
  have hmonth : 1 + (d.month - 1) = d.month := by
    have := d.month_range
    omega
  have hdayOfMonth : d.day - 1 + 1 = d.day := by omega
  simp only [ofDayNumber?, hyear, hday, hsplit, hmonth, hdayOfMonth, of?_eq_some_iff, and_self]

/-- The date found for a day number is the one date with that number. -/
theorem ofDayNumber?_eq_some_iff {n : Int} {d : Date} :
    ofDayNumber? n = some d ↔ d.dayNumber = n := by
  refine ⟨dayNumber_of_ofDayNumber?, ?_⟩
  rintro rfl
  exact ofDayNumber?_dayNumber d

/-- The days that have a date are those of the years that have dates. -/
theorem exists_dayNumber_eq_iff {n : Int} :
    (∃ d : Date, d.dayNumber = n) ↔ yearStart minYear ≤ n ∧ n < yearStart (maxYear + 1) := by
  constructor
  · rintro ⟨d, rfl⟩
    obtain ⟨hstart, hend⟩ := d.dayNumber_mem_year
    obtain ⟨hmin, hmax⟩ := d.year_range
    have hfirst := yearStart_mono hmin
    have hlast := yearStart_mono (Int.add_le_add_right hmax 1)
    omega
  · rintro ⟨hmin, hmax⟩
    obtain ⟨hfirst, hlast⟩ := yearOfDay_mem hmin hmax
    have hstart := yearStart_yearOfDay_le n
    have hend := lt_yearStart_yearOfDay_succ n
    rw [yearStart_succ] at hend
    have hlt : (n - yearStart (yearOfDay n)).toNat < totalDays (monthLengths (yearOfDay n)) := by
      omega
    obtain ⟨k, j, length, hk, hj, hday⟩ := exists_month hlt
    have hk12 : k < 12 := (List.getElem?_eq_some_iff.1 hk).1
    have hmonth : 1 ≤ k + 1 ∧ k + 1 ≤ 12 := by omega
    have hlength : daysInMonth (yearOfDay n) (k + 1) = length :=
      Option.some.inj ((getElem?_monthLengths (yearOfDay n) hmonth).symm.trans hk)
    refine ⟨⟨yearOfDay n, k + 1, j + 1, ⟨hfirst, Int.le_of_lt_add_one hlast⟩, hmonth,
      ⟨by omega, by omega⟩⟩, ?_⟩
    simp only [dayNumber, daysBeforeMonth, Nat.add_sub_cancel]
    omega

/-- A day of the calendar is its number. -/
theorem eq_of_dayNumber_eq {d e : Date} (h : d.dayNumber = e.dayNumber) : d = e := by
  have hd := ofDayNumber?_dayNumber d
  rw [h, ofDayNumber?_dayNumber e] at hd
  exact (Option.some.inj hd).symm

/-! ## Consecutive dates -/

/-- The dates that follow one another: the next day of a month, the first day of the next month
after the last day of one, and the first day of the next year after the last day of December. -/
inductive Next (d e : Date) : Prop
  | day (hyear : e.year = d.year) (hmonth : e.month = d.month) (hday : e.day = d.day + 1)
  | month (hlast : d.day = daysInMonth d.year d.month) (hyear : e.year = d.year)
      (hmonth : e.month = d.month + 1) (hfirst : e.day = 1)
  | year (hlast : d.day = daysInMonth d.year d.month) (hdecember : d.month = 12)
      (hyear : e.year = d.year + 1) (hjanuary : e.month = 1) (hfirst : e.day = 1)

/-- After the last day of a month all days of its months have passed. -/
theorem dayNumber_add_one_of_last {d : Date} (h : d.day = daysInMonth d.year d.month) :
    d.dayNumber + 1 = yearStart d.year + totalDays ((monthLengths d.year).take d.month) := by
  have hsum := totalDays_take_succ (getElem?_monthLengths d.year d.month_range)
  have hmonth : d.month - 1 + 1 = d.month := Nat.sub_add_cancel d.month_range.1
  rw [hmonth] at hsum
  unfold dayNumber daysBeforeMonth
  omega

theorem Next.dayNumber_eq {d e : Date} (h : d.Next e) : e.dayNumber = d.dayNumber + 1 := by
  cases h with
  | day hyear hmonth hday =>
    unfold dayNumber
    rw [hyear, hmonth, hday]
    have hpos := d.day_range.1
    omega
  | month hlast hyear hmonth hfirst =>
    rw [dayNumber_add_one_of_last hlast]
    unfold dayNumber daysBeforeMonth
    rw [hyear, hmonth, hfirst, Nat.add_sub_cancel]
    omega
  | year hlast hdecember hyear hjanuary hfirst =>
    have htake : (monthLengths d.year).take 12 = monthLengths d.year := rfl
    rw [dayNumber_add_one_of_last hlast, hdecember, htake]
    unfold dayNumber daysBeforeMonth
    rw [hyear, hjanuary, hfirst, yearStart_succ, Nat.sub_self, List.take_zero, totalDays]
    omega

/-- No date lies between two whose numbers follow one another. -/
theorem next_of_dayNumber_eq {d e : Date} (h : e.dayNumber = d.dayNumber + 1) : d.Next e := by
  -- In each case the date after `d` is written down; it has the number of `e`, so it is `e`.
  have hnext : ∀ n : Date, d.Next n → d.Next e := by
    intro n hn
    have hnumber : n.dayNumber = e.dayNumber := by rw [hn.dayNumber_eq, h]
    rw [← eq_of_dayNumber_eq hnumber]
    exact hn
  obtain ⟨-, hlast⟩ := d.day_range
  by_cases hday : d.day < daysInMonth d.year d.month
  · exact hnext ⟨d.year, d.month, d.day + 1, d.year_range, d.month_range, by omega, hday⟩
      (.day rfl rfl rfl)
  have hend : d.day = daysInMonth d.year d.month := by omega
  by_cases hmonth : d.month < 12
  · have hrange : 1 ≤ d.month + 1 ∧ d.month + 1 ≤ 12 := by omega
    exact hnext ⟨d.year, d.month + 1, 1, d.year_range, hrange, Nat.le_refl 1,
      daysInMonth_pos d.year hrange⟩ (.month hend rfl rfl rfl)
  · have hdecember : d.month = 12 := Nat.le_antisymm d.month_range.2 (Nat.not_lt.1 hmonth)
    have htake : (monthLengths d.year).take 12 = monthLengths d.year := rfl
    have hyearEnd := dayNumber_add_one_of_last hend
    rw [hdecember, htake, ← yearStart_succ] at hyearEnd
    have hmax : d.year + 1 ≤ maxYear := by
      -- the year after `d` begins with `e`, which has a date
      refine Int.not_lt.1 fun hgt => ?_
      have hstart := yearStart_mono (Int.add_one_le_of_lt hgt)
      have hstop := (exists_dayNumber_eq_iff.1 ⟨e, h⟩).2
      omega
    have hmin : minYear ≤ d.year + 1 := Int.le_add_one d.year_range.1
    have hjanuary : 1 ≤ 1 ∧ 1 ≤ 12 := by decide
    exact hnext ⟨d.year + 1, 1, 1, ⟨hmin, hmax⟩, hjanuary, Nat.le_refl 1,
      daysInMonth_pos (d.year + 1) hjanuary⟩ (.year hend hdecember rfl rfl rfl)

/-! ## The order of dates -/

/-- The order of dates: by year, then by month, then by day. -/
def order (d e : Date) : Ordering :=
  (compare d.year e.year).then ((compare d.month e.month).then (compare d.day e.day))

theorem order_swap (d e : Date) : (d.order e).swap = e.order d := by
  unfold order
  rw [Ordering.swap_then, Ordering.swap_then, Int.compare_swap, Nat.compare_swap,
    Nat.compare_swap]

theorem eq_of_order_eq {d e : Date} (h : d.order e = .eq) : d = e := by
  unfold order at h
  rw [Ordering.then_eq_eq, Ordering.then_eq_eq, Int.compare_eq_eq, Nat.compare_eq_eq,
    Nat.compare_eq_eq] at h
  obtain ⟨hyear, hmonth, hday⟩ := h
  exact eq_of_fields hyear hmonth hday

/-- Earlier dates have lesser numbers. -/
theorem dayNumber_lt_of_order_lt {d e : Date} (h : d.order e = .lt) :
    d.dayNumber < e.dayNumber := by
  unfold order at h
  rw [Ordering.then_eq_lt, Ordering.then_eq_lt, Int.compare_eq_lt, Int.compare_eq_eq,
    Nat.compare_eq_lt, Nat.compare_eq_eq, Nat.compare_eq_lt] at h
  rcases h with hyear | ⟨hyear, hmonth | ⟨hmonth, hday⟩⟩
  · have hd := d.dayNumber_mem_year.2
    have he := e.dayNumber_mem_year.1
    have hstart := yearStart_mono (Int.add_one_le_of_lt hyear)
    omega
  · -- the months before `e` contain the month of `d`
    have hsum := totalDays_take_succ (getElem?_monthLengths d.year d.month_range)
    have htake : d.month - 1 + 1 ≤ e.month - 1 := by
      have hpos := d.month_range.1
      omega
    have hle := totalDays_take_mono (monthLengths d.year) htake
    have hlast := d.day_range.2
    have hfirst := e.day_range.1
    unfold dayNumber daysBeforeMonth
    rw [← hyear]
    omega
  · unfold dayNumber
    rw [← hyear, ← hmonth]
    omega

/-- The order of dates is the order of their numbers. -/
theorem order_eq_compare (d e : Date) : d.order e = compare d.dayNumber e.dayNumber := by
  cases h : d.order e with
  | lt => exact (Int.compare_eq_lt.2 (dayNumber_lt_of_order_lt h)).symm
  | eq => rw [eq_of_order_eq h, Int.compare_eq_eq.2 rfl]
  | gt =>
    have hswap : e.order d = .lt := by rw [← order_swap, h, Ordering.swap_gt]
    exact (Int.compare_eq_gt.2 (dayNumber_lt_of_order_lt hswap)).symm

end Date

end Criteria
