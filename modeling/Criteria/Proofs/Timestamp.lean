import Criteria.Proofs.Calendar
import Criteria.Proofs.Text.Digits

/-!
# Instants read back

The written form of an instant determines it, whatever is written after it (`separates_chars`).
The calendar reading of an instant is of that instant (`nanos_of_toDateTime?`); its fields can be
read one by one, and the number of places after the point tells what they count.
-/

namespace Criteria

namespace TimeOfDay

theorem secondOfDay_ofSeconds {n : Nat} (nano : Nat) (h : n < 86400) :
    (ofSeconds n nano).secondOfDay = n := by
  simp only [secondOfDay, ofSeconds]
  omega

end TimeOfDay

theorem int64?_eq_some_iff {n : Int} {s : Int64} : int64? n = some s ↔ s.toInt = n := by
  unfold int64?
  constructor
  · intro h
    split at h
    · next hrange =>
      cases h
      exact Int64.toInt_ofInt_of_le hrange.1 (Int.lt_add_one_iff.2 hrange.2)
    · cases h
  · rintro rfl
    have hmin := Int64.minValue_le_toInt s
    have hmax := Int64.toInt_lt s
    rw [if_pos ⟨hmin, Int.le_of_lt_add_one hmax⟩, Int64.ofInt_toInt]

namespace Timestamp

theorem subsecond_lt (t : Timestamp) : t.subsecond < 1000000000 := by
  unfold subsecond nanosPerSecond
  omega

theorem uint32?_subsecond (t : Timestamp) :
    ∃ nano, uint32? t.subsecond = some nano ∧ nano.toNat = t.subsecond := by
  have hlt : t.subsecond < UInt32.size := Nat.lt_trans t.subsecond_lt (by decide)
  exact ⟨.ofNat t.subsecond, if_pos hlt, UInt32.toNat_ofNat_of_lt hlt⟩

/-- Nothing is lost in narrowing: there are no dates where 64 bits are used up. -/
theorem toDateTime?_eq (t : Timestamp) :
    t.toDateTime? = (Date.ofDayNumber? (t.seconds / 86400)).map fun date =>
      { date, time := TimeOfDay.ofSeconds (t.seconds % 86400).toNat t.subsecond } := by
  obtain ⟨nano, hnano, hsubsecond⟩ := t.uint32?_subsecond
  rw [toDateTime?, hnano]
  cases hseconds : int64? t.seconds with
  | some seconds =>
    simp only [Option.bind_eq_bind, Option.bind_some, int64?_eq_some_iff.1 hseconds, hsubsecond,
      Option.pure_def, Option.map_eq_bind]
    rfl
  | none =>
    cases hdate : Date.ofDayNumber? (t.seconds / 86400) with
    | none => rfl
    | some date =>
      have hbounds := date.dayNumber_bounds
      rw [Date.dayNumber_of_ofDayNumber? hdate] at hbounds
      have hfits : int64? t.seconds = some (.ofInt t.seconds) :=
        int64?_eq_some_iff.2 (Int64.toInt_ofInt_of_le (by omega) (by omega))
      rw [hseconds] at hfits
      cases hfits

theorem toDateTime?_eq_some_iff {t : Timestamp} {d : DateTime} :
    t.toDateTime? = some d ↔ Date.ofDayNumber? (t.seconds / 86400) = some d.date ∧
      d.time = TimeOfDay.ofSeconds (t.seconds % 86400).toNat t.subsecond := by
  rw [toDateTime?_eq, Option.map_eq_some_iff]
  constructor
  · rintro ⟨date, hdate, rfl⟩
    exact ⟨hdate, rfl⟩
  · rintro ⟨hdate, htime⟩
    exact ⟨d.date, hdate, by rw [← htime]⟩

theorem nano_of_toDateTime? {t : Timestamp} {d : DateTime} (h : t.toDateTime? = some d) :
    d.time.nano = t.subsecond := by
  rw [(toDateTime?_eq_some_iff.1 h).2]
  exact Nat.mod_eq_of_lt t.subsecond_lt

/-- The calendar reading of an instant is a reading of that instant. -/
theorem nanos_of_toDateTime? {t : Timestamp} {d : DateTime} (h : t.toDateTime? = some d) :
    d.nanos = t.nanos := by
  obtain ⟨hdate, htime⟩ := toDateTime?_eq_some_iff.1 h
  have hday := Date.dayNumber_of_ofDayNumber? hdate
  have hclock : d.time.secondOfDay = (t.seconds % 86400).toNat := by
    rw [htime]
    exact TimeOfDay.secondOfDay_ofSeconds t.subsecond (by omega)
  unfold DateTime.nanos
  rw [hday, hclock, nano_of_toDateTime? h]
  unfold subsecond seconds nanosPerSecond
  omega

end Timestamp

/-! ## The fields of a reading -/

/-- The sign of a written year. -/
def yearSign (year : Int) : List Char :=
  if year < 0 then ['-'] else if 9999 < year then ['+'] else []

theorem yearText_eq (year : Int) : yearText year = yearSign year ++ padded 4 year.natAbs := by
  unfold yearText yearSign
  split
  · rfl
  · split <;> rfl

theorem isDigit_of_mem_yearSign {year : Int} {c : Char} (hc : c ∈ yearSign year) :
    c.isDigit = false := by
  unfold yearSign at hc
  split at hc
  · rw [List.mem_singleton.1 hc]
    rfl
  · split at hc
    · rw [List.mem_singleton.1 hc]
      rfl
    · cases hc

theorem yearSign_inj {y z : Int} (hsign : yearSign y = yearSign z) (habs : y.natAbs = z.natAbs) :
    y = z := by
  have hneg : ∀ x : Int, yearSign x = ['-'] ↔ x < 0 := by
    intro x
    unfold yearSign
    split
    · next hx => exact iff_of_true rfl hx
    · next hx => split <;> exact iff_of_false (by decide) hx
  have hyz : y < 0 ↔ z < 0 := by rw [← hneg, ← hneg, hsign]
  omega

theorem yearText_append_inj {y z : Int} {a b : Char} {s t : List Char} (ha : a.isDigit = false)
    (hb : b.isDigit = false) (h : yearText y ++ a :: s = yearText z ++ b :: t) :
    y = z ∧ a = b ∧ s = t := by
  rw [yearText_eq, yearText_eq] at h
  obtain ⟨hsign, hdigits, hab, hst⟩ := signed_append_inj (fun _ => isDigit_of_mem_yearSign)
    (fun _ => isDigit_of_mem_yearSign) (fun _ => isDigit_of_mem_padded)
    (fun _ => isDigit_of_mem_padded) (padded_ne_nil _ _) (padded_ne_nil _ _) ha hb h
  exact ⟨yearSign_inj hsign (padded_inj hdigits), hab, hst⟩

/-- The date and the second of the day can be read off a reading with a fraction after it. -/
theorem DateTime.secondsText_append_inj {d e : DateTime} {s t : List Char}
    (h : d.secondsText ++ '.' :: s = e.secondsText ++ '.' :: t) :
    d.date = e.date ∧ d.time.secondOfDay = e.time.secondOfDay ∧ s = t := by
  simp only [secondsText, List.append_assoc, List.singleton_append] at h
  obtain ⟨hyear, -, h⟩ := yearText_append_inj rfl rfl h
  obtain ⟨hmonth, -, h⟩ := padded_append_inj rfl rfl h
  obtain ⟨hday, -, h⟩ := padded_append_inj rfl rfl h
  obtain ⟨hhour, -, h⟩ := padded_append_inj rfl rfl h
  obtain ⟨hminute, -, h⟩ := padded_append_inj rfl rfl h
  obtain ⟨hsecond, -, hst⟩ := padded_append_inj rfl rfl h
  refine ⟨Date.eq_of_fields hyear hmonth hday, ?_, hst⟩
  unfold TimeOfDay.secondOfDay
  rw [hhour, hminute, hsecond]

theorem DateTime.secondsText_eq (d : DateTime) :
    d.secondsText = yearSign d.date.year ++ padded 4 d.date.year.natAbs ++ '-' ::
      (padded 2 d.date.month ++ '-' :: (padded 2 d.date.day ++ 'T' ::
        (padded 2 d.time.hour ++ ':' :: (padded 2 d.time.minute ++ ':' ::
          padded 2 d.time.second)))) := by
  simp only [secondsText, yearText_eq, List.append_assoc, List.cons_append, List.nil_append]

namespace Timestamp

/-! ## The fraction of a second -/

theorem isDigit_of_mem_fractionText {t : Timestamp} {c : Char} (hc : c ∈ t.fractionText) :
    c.isDigit = true := by
  unfold fractionText at hc
  split at hc <;> exact isDigit_of_mem_padded hc

theorem length_fractionText (t : Timestamp) :
    t.fractionText.length = if t.subsecond % 1000000 = 0 then 3 else 9 := by
  have hlt := t.subsecond_lt
  unfold fractionText
  split
  · apply length_padded
    rw [Nat.length_toDigits_le_iff (by decide) (by decide)]
    omega
  · apply length_padded
    rw [Nat.length_toDigits_le_iff (by decide) (by decide)]
    omega

/-- Three places count milliseconds and nine count nanoseconds. -/
theorem fractionText_inj {a b : Timestamp} (h : a.fractionText = b.fractionText) :
    a.subsecond = b.subsecond := by
  have hlength := congrArg List.length h
  rw [length_fractionText, length_fractionText] at hlength
  unfold fractionText at h
  by_cases ha : a.subsecond % 1000000 = 0
  · by_cases hb : b.subsecond % 1000000 = 0
    · rw [if_pos ha, if_pos hb] at h
      have hmillis := padded_inj h
      omega
    · rw [if_pos ha, if_neg hb] at hlength
      exact absurd hlength (by decide)
  · by_cases hb : b.subsecond % 1000000 = 0
    · rw [if_neg ha, if_pos hb] at hlength
      exact absurd hlength (by decide)
    · rw [if_neg ha, if_neg hb] at h
      exact padded_inj h

/-! ## Instants -/

theorem nanos_eq_of_reading_eq {a b : Timestamp} {d e : DateTime} (ha : a.toDateTime? = some d)
    (hb : b.toDateTime? = some e) (hdate : d.date = e.date)
    (hclock : d.time.secondOfDay = e.time.secondOfDay) (hfraction : a.subsecond = b.subsecond) :
    a.nanos = b.nanos := by
  rw [← nanos_of_toDateTime? ha, ← nanos_of_toDateTime? hb]
  unfold DateTime.nanos
  rw [hdate, hclock, nano_of_toDateTime? ha, nano_of_toDateTime? hb, hfraction]

/-- A reading of the calendar is never taken for a bare count: after its first digits comes a
hyphen. -/
theorem secondsText_append_ne_count (d : DateTime) (n : Int) (s t : List Char) :
    d.secondsText ++ s ≠ intText n ++ 'n' :: t := by
  intro h
  rw [d.secondsText_eq, intText_eq, List.append_assoc _ _ s] at h
  obtain ⟨-, -, hmark, -⟩ := signed_append_inj (fun _ => isDigit_of_mem_yearSign)
    (fun _ => isDigit_of_mem_minusText) (fun _ => isDigit_of_mem_padded)
    (fun _ => isDigit_of_mem_toDigits) (padded_ne_nil _ _) Nat.toDigits_ne_nil rfl rfl h
  exact absurd hmark (by decide)

/-- The written form of an instant determines it. -/
theorem separates_chars (a b : Timestamp) : Text.Separates chars a b := by
  intro s t h
  unfold chars at h
  split at h
  · next d ha =>
    split at h
    · next e hb =>
      obtain ⟨hdate, hclock, h⟩ := DateTime.secondsText_append_inj (by simpa using h)
      obtain ⟨hfraction, -, hst⟩ := Text.append_stop_inj (fun _ => isDigit_of_mem_fractionText)
        (fun _ => isDigit_of_mem_fractionText) rfl rfl h
      exact ⟨ext (nanos_eq_of_reading_eq ha hb hdate hclock (fractionText_inj hfraction)), hst⟩
    · exact absurd (by simpa using h) (secondsText_append_ne_count d b.nanos _ _)
  · split at h
    · next e _ =>
      exact absurd (by simpa using h.symm) (secondsText_append_ne_count e a.nanos _ _)
    · obtain ⟨hnanos, -, hst⟩ := intText_append_inj rfl rfl (by simpa using h)
      exact ⟨ext hnanos, (List.cons.inj hst).2⟩

/-- An instant begins with a digit or a sign. -/
theorem chars_append_ne_cons (a : Timestamp) {x : Char} (hdigit : x.isDigit = false)
    (hminus : x ≠ '-') (hplus : x ≠ '+') (s t : List Char) : a.chars ++ s ≠ x :: t := by
  unfold chars
  split
  · next d _ =>
    have hsign : x ∉ yearSign d.date.year := by
      unfold yearSign
      split
      · simpa using hminus
      · split <;> simp [hplus]
    simp only [d.secondsText_eq, List.append_assoc]
    exact signed_append_ne hsign (fun _ => isDigit_of_mem_padded) (padded_ne_nil _ _) hdigit _ _
  · have hsign : x ∉ minusText a.nanos := by
      unfold minusText
      split <;> simp [hminus]
    simp only [intText_eq, List.append_assoc]
    exact signed_append_ne hsign (fun _ => isDigit_of_mem_toDigits) Nat.toDigits_ne_nil hdigit _ _

end Timestamp

end Criteria
