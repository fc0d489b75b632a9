import Criteria.Proofs.Timestamp.Calendar

/-!
# Instants and their written form

A written instant is read back field by field (`Timestamp.ofText?`): a sign, the numbers of the date
and of the time of day up to their marks, and a fraction that counts milliseconds in three places
and nanoseconds in nine; or a bare count of nanoseconds.  What is written of an instant reads as
that instant (`Timestamp.ofText?_text`), so no two instants share a written form, and which of the
two forms it has is decided by the range of the calendar (`Timestamp.text_identifies`).
-/

namespace Criteria

namespace Text

/-! ## Numbers at the front of a text -/

/-- The number that ends at a mark, and what follows the mark. -/
def numberUntil? (mark : Char) (cs : List Char) : Option (Nat × List Char) :=
  let digits := cs.takeWhile Char.isDigit
  match cs.dropWhile Char.isDigit with
  | [] => none
  | c :: rest =>
    if digits ≠ [] ∧ c = mark then some (Nat.ofDigitChars 10 digits 0, rest) else none

theorem numberUntil?_append {digits rest : List Char} {c : Char}
    (hdigits : ∀ d ∈ digits, d.isDigit = true) (hne : digits ≠ []) (hc : c.isDigit = false)
    (mark : Char) :
    numberUntil? mark (digits ++ c :: rest) =
      if c = mark then some (Nat.ofDigitChars 10 digits 0, rest) else none := by
  have htake : (c :: rest).takeWhile Char.isDigit = [] := by simp [hc]
  have hdrop : (c :: rest).dropWhile Char.isDigit = c :: rest := by simp [hc]
  unfold numberUntil?
  rw [List.takeWhile_append_of_pos hdigits, List.dropWhile_append_of_pos hdigits, htake, hdrop,
    List.append_nil]
  simp only [hne, ne_eq, not_false_eq_true, true_and]

theorem numberUntil?_padded (width n : Nat) {mark : Char} (hmark : mark.isDigit = false)
    (rest : List Char) : numberUntil? mark (padded width n ++ mark :: rest) = some (n, rest) := by
  rw [numberUntil?_append (fun _ => isDigit_of_mem_padded) (padded_ne_nil width n) hmark,
    if_pos rfl, ofDigitChars_padded]

theorem numberUntil?_toDigits (n : Nat) {c : Char} (hc : c.isDigit = false) (mark : Char)
    (rest : List Char) :
    numberUntil? mark (Nat.toDigits 10 n ++ c :: rest) =
      if c = mark then some (n, rest) else none := by
  rw [numberUntil?_append (fun _ => isDigit_of_mem_toDigits) Nat.toDigits_ne_nil hc,
    Nat.ofDigitChars_ten_toDigits]

/-- The sign that a text may begin with, as a factor, and what follows it. -/
def splitSign : List Char → Int × List Char
  | '-' :: rest => (-1, rest)
  | '+' :: rest => (1, rest)
  | cs => (1, cs)

theorem splitSign_digits {digits : List Char} (hdigits : ∀ d ∈ digits, d.isDigit = true)
    (hne : digits ≠ []) (rest : List Char) :
    splitSign (digits ++ rest) = (1, digits ++ rest) := by
  obtain ⟨d, digits, rfl⟩ := List.exists_cons_of_ne_nil hne
  have hd : d.isDigit = true := hdigits d List.mem_cons_self
  rw [List.cons_append]
  unfold splitSign
  split
  · next h =>
    obtain ⟨rfl, -⟩ := List.cons.inj h
    cases hd
  · next h =>
    obtain ⟨rfl, -⟩ := List.cons.inj h
    cases hd
  · rfl

end Text

/-! ## The sign of a year and of a count -/

/-- A reading after the sign of its year, with a fraction of a second. -/
def DateTime.unsignedText (d : DateTime) (fraction : List Char) : List Char :=
  padded 4 d.date.year.natAbs ++ '-' :: (padded 2 d.date.month ++ '-' :: (padded 2 d.date.day ++
    'T' :: (padded 2 d.time.hour ++ ':' :: (padded 2 d.time.minute ++ ':' ::
      (padded 2 d.time.second ++ '.' :: (fraction ++ ['Z']))))))

theorem DateTime.exists_splitSign_unsignedText (d : DateTime) (fraction : List Char) :
    ∃ sign : Int, Text.splitSign (yearSign d.date.year ++ d.unsignedText fraction)
        = (sign, d.unsignedText fraction) ∧ sign * d.date.year.natAbs = d.date.year := by
  unfold yearSign
  split
  · exact ⟨-1, rfl, by omega⟩
  split
  · exact ⟨1, rfl, by omega⟩
  · refine ⟨1, ?_, by omega⟩
    exact Text.splitSign_digits (fun _ => isDigit_of_mem_padded) (padded_ne_nil 4 _) _

theorem exists_splitSign_minusText (n : Int) (rest : List Char) :
    ∃ sign : Int, Text.splitSign (minusText n ++ (Nat.toDigits 10 n.natAbs ++ rest))
        = (sign, Nat.toDigits 10 n.natAbs ++ rest) ∧ sign * n.natAbs = n := by
  unfold minusText
  split
  · exact ⟨-1, rfl, by omega⟩
  · refine ⟨1, ?_, by omega⟩
    exact Text.splitSign_digits (fun _ => isDigit_of_mem_toDigits) Nat.toDigits_ne_nil rest

theorem TimeOfDay.of?_eq_some {t : TimeOfDay} (h : t.isLeapSecond = false) :
    of? t.hour t.minute t.second t.nano = some t := by
  unfold of?
  rw [dif_pos t.hour_lt, dif_pos t.minute_lt, dif_pos t.second_lt,
    dif_pos (.inl (isLeapSecond_eq_false_iff.1 h))]

namespace Timestamp

/-! ## Reading -/

/-- The nanoseconds that a fraction and the mark of universal time stand for. -/
def nanosOfFraction? (cs : List Char) : Option Nat := do
  let (n, rest) ← Text.numberUntil? 'Z' cs
  match rest, (cs.takeWhile Char.isDigit).length with
  | [], 3 => some (n * 1000000)
  | [], 9 => some n
  | _, _ => none

/-- The instant of a date and a time of day, written in universal time after the sign of the
year. -/
def ofReading? (sign : Int) (cs : List Char) : Option Timestamp := do
  let (year, cs) ← Text.numberUntil? '-' cs
  let (month, cs) ← Text.numberUntil? '-' cs
  let (day, cs) ← Text.numberUntil? 'T' cs
  let (hour, cs) ← Text.numberUntil? ':' cs
  let (minute, cs) ← Text.numberUntil? ':' cs
  let (second, cs) ← Text.numberUntil? '.' cs
  let nano ← nanosOfFraction? cs
  let date ← Date.of? (sign * year) month day
  let time ← TimeOfDay.of? hour minute second nano
  return DateTime.toTimestamp ⟨date, time⟩

/-- The instant of a count of nanoseconds, written after its sign. -/
def ofCount? (sign : Int) (cs : List Char) : Option Timestamp := do
  let (n, rest) ← Text.numberUntil? 'n' cs
  if rest = ['s'] then ofNanos? (sign * n) else none

/-- The instant that a text is the written form of. -/
def ofText? (s : String) : Option Timestamp :=
  let (sign, cs) := Text.splitSign s.toList
  (ofReading? sign cs).or (ofCount? sign cs)

theorem nanosOfFraction?_fractionText (t : Timestamp) :
    nanosOfFraction? (t.fractionText ++ ['Z']) = some t.subsecond := by
  have hdigits : ∀ c ∈ t.fractionText, c.isDigit = true := fun _ => isDigit_of_mem_fractionText
  have hlength := t.length_fractionText
  have htake : (t.fractionText ++ ['Z']).takeWhile Char.isDigit = t.fractionText := by
    rw [List.takeWhile_append_of_pos hdigits]
    exact List.append_nil _
  have hnumber : Text.numberUntil? 'Z' (t.fractionText ++ ['Z']) =
      some (if t.subsecond % 1000000 = 0 then t.subsecond / 1000000 else t.subsecond, []) := by
    unfold fractionText
    split <;> exact Text.numberUntil?_padded _ _ rfl []
  unfold nanosOfFraction?
  rw [hnumber, htake, hlength]
  by_cases h : t.subsecond % 1000000 = 0
  · have hmillis : t.subsecond / 1000000 * 1000000 = t.subsecond :=
      Nat.div_mul_cancel (Nat.dvd_of_mod_eq_zero h)
    simp only [h, if_true, Option.bind_eq_bind, Option.bind_some, hmillis]
  · simp only [h, if_false, Option.bind_eq_bind, Option.bind_some]

theorem ofReading?_unsignedText {t : Timestamp} {d : DateTime} (h : t.toDateTime? = some d)
    {sign : Int} (hsign : sign * d.date.year.natAbs = d.date.year) :
    ofReading? sign (d.unsignedText t.fractionText) = some t := by
  obtain ⟨htimestamp, hleap⟩ := toDateTime?_eq_some_iff_toTimestamp.1 h
  have hdate : Date.of? d.date.year d.date.month d.date.day = some d.date :=
    Date.of?_eq_some_iff.2 ⟨rfl, rfl, rfl⟩
  have htime := TimeOfDay.of?_eq_some hleap
  rw [nano_of_toDateTime? h] at htime
  have hdash : '-'.isDigit = false := rfl
  have hletter : 'T'.isDigit = false := rfl
  have hcolon : ':'.isDigit = false := rfl
  have hpoint : '.'.isDigit = false := rfl
  simp only [ofReading?, DateTime.unsignedText, Text.numberUntil?_padded, hdash, hletter, hcolon,
    hpoint, Option.bind_eq_bind, Option.bind_some, nanosOfFraction?_fractionText, hsign, hdate,
    htime, htimestamp, Option.pure_def]

theorem ofReading?_count (sign : Int) (n : Nat) (rest : List Char) :
    ofReading? sign (Nat.toDigits 10 n ++ 'n' :: rest) = none := by
  unfold ofReading?
  rw [Text.numberUntil?_toDigits n rfl, if_neg (by decide)]
  rfl

theorem ofCount?_count {t : Timestamp} {sign : Int} (hsign : sign * t.nanos.natAbs = t.nanos) :
    ofCount? sign (Nat.toDigits 10 t.nanos.natAbs ++ ['n', 's']) = some t := by
  have hfits : ofNanos? t.nanos = some t := dif_pos ⟨t.min_le, t.le_max⟩
  unfold ofCount?
  rw [Text.numberUntil?_toDigits _ rfl, if_pos rfl]
  simp only [Option.bind_eq_bind, Option.bind_some, if_true, hsign, hfits]

/-! ## The two forms -/

theorem text_toList (t : Timestamp) : t.text.toList = t.chars :=
  String.toList_ofList

theorem chars_of_reading {t : Timestamp} {d : DateTime} (h : t.toDateTime? = some d) :
    t.chars = yearSign d.date.year ++ d.unsignedText t.fractionText := by
  unfold chars
  rw [h]
  simp only [DateTime.secondsText_eq, DateTime.unsignedText, List.append_assoc, List.cons_append,
    List.nil_append]

theorem chars_of_no_reading {t : Timestamp} (h : t.toDateTime? = none) :
    t.chars = minusText t.nanos ++ (Nat.toDigits 10 t.nanos.natAbs ++ ['n', 's']) := by
  unfold chars
  rw [h]
  simp only [intText_eq, List.append_assoc]

/-- What is written of an instant is read as that instant. -/
theorem ofText?_text (t : Timestamp) : ofText? t.text = some t := by
  unfold ofText?
  rw [text_toList]
  cases h : t.toDateTime? with
  | some d =>
    obtain ⟨sign, hsplit, hsign⟩ := d.exists_splitSign_unsignedText t.fractionText
    rw [chars_of_reading h, hsplit]
    simp only [ofReading?_unsignedText h hsign, Option.some_or]
  | none =>
    obtain ⟨sign, hsplit, hsign⟩ := exists_splitSign_minusText t.nanos ['n', 's']
    rw [chars_of_no_reading h, hsplit]
    simp only [ofReading?_count, ofCount?_count hsign, Option.none_or]

theorem text_inj {t u : Timestamp} (h : t.text = u.text) : t = u := by
  have hread := ofText?_text t
  rw [h, ofText?_text u] at hread
  exact (Option.some.inj hread).symm

/-- The instants from the first to the last reading of the calendar. -/
def InCalendar (t : Timestamp) : Prop :=
  DateTime.first.nanos ≤ t.nanos ∧ t.nanos ≤ DateTime.last.nanos

/-- **The written form of an instant identifies it.**  Two instants with one written form are one,
and reading the written form gives the instant.  Within the range of the calendar the written form
is the date and the time of day of the instant, the year with a sign before year 0 and after year
9999, and a fraction of three digits for whole milliseconds and of nine digits otherwise.  Outside
it is the count of nanoseconds, which is not the written form of any instant within. -/
theorem text_identifies (t : Timestamp) :
    (∀ u : Timestamp, t.text = u.text → t = u) ∧
      ofText? t.text = some t ∧
      (t.InCalendar →
        ∃ (d : DateTime) (fraction : List Char),
          (d.toTimestamp = t ∧ d.time.isLeapSecond = false) ∧
          t.text.toList = yearSign d.date.year ++ d.unsignedText fraction ∧
          (∀ c ∈ fraction, c.isDigit = true) ∧
          fraction.length = if t.nanos % nanosPerMilli = 0 then 3 else 9) ∧
      (¬ t.InCalendar →
        t.text.toList = intText t.nanos ++ ['n', 's'] ∧
          ∀ u : Timestamp, u.InCalendar → u.text ≠ t.text) := by
  refine ⟨fun u => text_inj, ofText?_text t, fun hrange => ?_, fun hrange => ⟨?_, ?_⟩⟩
  · obtain ⟨d, hd⟩ := Option.isSome_iff_exists.1 (isSome_toDateTime?_iff.2 hrange)
    have hmillis : t.nanos % nanosPerMilli = 0 ↔ t.subsecond % 1000000 = 0 := by
      unfold subsecond nanosPerMilli nanosPerSecond
      omega
    refine ⟨d, t.fractionText, toDateTime?_eq_some_iff_toTimestamp.1 hd, ?_,
      fun c => isDigit_of_mem_fractionText, ?_⟩
    · rw [text_toList, chars_of_reading hd]
    · simp only [hmillis, length_fractionText]
  · have hnone : t.toDateTime? = none := by
      rw [← Option.not_isSome_iff_eq_none, isSome_toDateTime?_iff]
      exact hrange
    rw [text_toList, chars_of_no_reading hnone, intText_eq, List.append_assoc]
  · intro u hu h
    obtain rfl := text_inj h
    exact hrange hu

/-- The second before 1970 is written as a reading, an instant after the calendar as a count. -/
theorem text_identifies_both_forms :
    let before := ofSeconds (-1)
    let late := ofSeconds 9223372036854775807
    (before.InCalendar ∧ ¬ late.InCalendar) ∧
      (∃ (d : DateTime) (fraction : List Char),
        (d.toTimestamp = before ∧ d.time.isLeapSecond = false) ∧
        before.text.toList = yearSign d.date.year ++ d.unsignedText fraction ∧
        (∀ c ∈ fraction, c.isDigit = true) ∧
        fraction.length = if before.nanos % nanosPerMilli = 0 then 3 else 9) ∧
      late.text.toList = intText late.nanos ++ ['n', 's'] ∧
      before.text ≠ late.text := by
  intro before late
  have hbefore : before.InCalendar := ⟨by decide, by decide⟩
  have hlate : ¬ late.InCalendar := fun h => absurd h.2 (by decide)
  obtain ⟨hcount, hforms⟩ := (text_identifies late).2.2.2 hlate
  exact ⟨⟨hbefore, hlate⟩, (text_identifies before).2.2.1 hbefore, hcount, hforms before hbefore⟩

-- The year before year 0 is written with a sign, a whole second with milliseconds.
example :
    (DateTime.toTimestamp ⟨⟨-1, 12, 31, by decide, by decide, by decide⟩, .midnight⟩).text =
      "-0001-12-31T00:00:00.000Z" := by
  decide

end Timestamp

end Criteria
