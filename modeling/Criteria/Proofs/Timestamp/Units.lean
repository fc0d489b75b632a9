import Criteria.Timestamp

/-!
# Coarser units

The whole milliseconds of an instant, and its whole seconds, are the greatest number whose own
instant is no later (`le_millis_iff`, `le_seconds_iff`).  On either side of 1970 this says which way
is rounded, so all else about the two units is read off it.

Numbers of 128 bits suffice for the conversions: with every step checked to fit, they give the same
(`floorQuotient?_eq`).
-/

namespace Criteria

/-! ## Checked arithmetic -/

/-- Whether a number fits 128 bits with sign. -/
def Fits128 (n : Int) : Prop :=
  minNanos ≤ n ∧ n ≤ maxNanos

instance (n : Int) : Decidable (Fits128 n) :=
  inferInstanceAs (Decidable (_ ∧ _))

/-- A number, if it fits. -/
def fitting? (n : Int) : Option Int :=
  if Fits128 n then some n else none

/-- A quotient rounded down, made of the one rounded toward zero: it is one less if a remainder
below zero is left.  Every number on the way has to fit. -/
def floorQuotient? (n unit : Int) : Option Int := do
  let quotient ← fitting? (n.tdiv unit)
  let remainder ← fitting? (n.tmod unit)
  if remainder < 0 then fitting? (quotient - 1) else some quotient

theorem fitting?_eq_some {n : Int} (h : Fits128 n) : fitting? n = some n :=
  if_pos h

theorem Fits128.ediv {n unit : Int} (h : Fits128 n) (hunit : 0 < unit) : Fits128 (n / unit) := by
  obtain ⟨hmin, hmax⟩ := h
  unfold minNanos at hmin
  unfold maxNanos at hmax
  constructor
  · rw [minNanos, Int.le_ediv_iff_mul_le hunit]
    omega
  · exact Int.ediv_le_of_le_mul hunit (by unfold maxNanos; omega)

/-- Rounding down never leaves the range. -/
theorem floorQuotient?_eq {n unit : Int} (h : Fits128 n) (hunit : 0 < unit)
    (hfits : unit ≤ maxNanos) : floorQuotient? n unit = some (n / unit) := by
  have hquotient : Fits128 (n / unit) := h.ediv hunit
  have hnonneg := Int.emod_nonneg n (Int.ne_of_gt hunit)
  have hlt := Int.emod_lt_of_pos n hunit
  unfold floorQuotient?
  rw [Int.tdiv_eq_ediv, Int.tmod_eq_emod, Int.sign_eq_one_of_pos hunit]
  by_cases hexact : 0 ≤ n ∨ unit ∣ n
  · -- nothing below zero is left
    have hremainder : Fits128 (n % unit) := by
      unfold Fits128 minNanos
      omega
    rw [if_pos hexact, if_pos hexact, Int.add_zero, Int.natCast_zero, Int.sub_zero,
      fitting?_eq_some hquotient, fitting?_eq_some hremainder]
    exact if_neg (Int.not_lt.2 hnonneg)
  · have hneg : n / unit < 0 := by
      rw [Int.ediv_lt_iff_lt_mul hunit]
      omega
    have htoward : Fits128 (n / unit + 1) := by
      unfold Fits128 at hquotient ⊢
      omega
    have hremainder : Fits128 (n % unit - unit.natAbs) := by
      unfold Fits128 minNanos
      unfold maxNanos at hfits ⊢
      omega
    rw [if_neg hexact, if_neg hexact, fitting?_eq_some htoward, fitting?_eq_some hremainder]
    have hbelow : n % unit - unit.natAbs < 0 := by omega
    show (if n % unit - unit.natAbs < 0 then fitting? (n / unit + 1 - 1) else _) = _
    rw [if_pos hbelow, Int.add_sub_cancel, fitting?_eq_some hquotient]

namespace Timestamp

variable {t u : Timestamp}

theorem fits (t : Timestamp) : Fits128 t.nanos :=
  ⟨t.min_le, t.le_max⟩

/-! ## Rounding -/

theorem le_millis_iff {m : Int} : m ≤ t.millis ↔ m * nanosPerMilli ≤ t.nanos :=
  Int.le_ediv_iff_mul_le (by decide)

theorem le_seconds_iff {s : Int} : s ≤ t.seconds ↔ s * nanosPerSecond ≤ t.nanos :=
  Int.le_ediv_iff_mul_le (by decide)

theorem millis_mono (h : t.nanos ≤ u.nanos) : t.millis ≤ u.millis :=
  le_millis_iff.2 (Int.le_trans (le_millis_iff.1 (Int.le_refl _)) h)

theorem seconds_mono (h : t.nanos ≤ u.nanos) : t.seconds ≤ u.seconds :=
  le_seconds_iff.2 (Int.le_trans (le_seconds_iff.1 (Int.le_refl _)) h)

/-- The seconds are those of the milliseconds: what the first rounding drops is too little to
matter. -/
theorem seconds_eq_fdiv_millis (t : Timestamp) : t.seconds = t.millis.fdiv 1000 := by
  rw [Int.fdiv_eq_ediv_of_nonneg _ (by decide)]
  unfold seconds millis nanosPerSecond nanosPerMilli
  omega

theorem millis_ofMillis (m : Int64) : (ofMillis m).millis = m.toInt :=
  Int.mul_ediv_cancel m.toInt (by decide)

theorem seconds_ofSeconds (s : Int64) : (ofSeconds s).seconds = s.toInt :=
  Int.mul_ediv_cancel s.toInt (by decide)

/-! ## All together -/

/-- **Coarser units bound an instant exactly.**  A number of milliseconds, or of seconds, is at
most that of an instant if and only if its own instant is no later; seconds are whole thousands of
milliseconds, rounded down; later instants have no smaller numbers; and a number survives being made
an instant.  With every step checked to fit 128 bits, the conversions both ways give the same. -/
theorem units_bound (t u : Timestamp) (m s : Int64) :
    ((ofMillis m).nanos ≤ t.nanos ↔ m.toInt ≤ t.millis) ∧
      ((ofSeconds s).nanos ≤ t.nanos ↔ s.toInt ≤ t.seconds) ∧
      t.seconds = t.millis.fdiv 1000 ∧
      (t.nanos ≤ u.nanos → t.millis ≤ u.millis ∧ t.seconds ≤ u.seconds) ∧
      (ofMillis m).millis = m.toInt ∧ (ofSeconds s).seconds = s.toInt ∧
      fitting? (m.toInt * nanosPerMilli) = some (ofMillis m).nanos ∧
      fitting? (s.toInt * nanosPerSecond) = some (ofSeconds s).nanos ∧
      floorQuotient? t.nanos nanosPerMilli = some t.millis ∧
      floorQuotient? t.nanos nanosPerSecond = some t.seconds := by
  refine ⟨le_millis_iff.symm, le_seconds_iff.symm, t.seconds_eq_fdiv_millis, ?_,
    millis_ofMillis m, seconds_ofSeconds s, ?_, ?_, ?_, ?_⟩
  · intro h
    exact ⟨millis_mono h, seconds_mono h⟩
  · exact fitting?_eq_some (ofMillis m).fits
  · exact fitting?_eq_some (ofSeconds s).fits
  · exact floorQuotient?_eq t.fits (by decide) (by decide)
  · exact floorQuotient?_eq t.fits (by decide) (by decide)

/-- At the least instant and a nanosecond before 1970, with the extremes of the coarser units. -/
theorem units_bound_least :
    let least : Timestamp := ⟨minNanos, by decide, by decide⟩
    let last : Timestamp := ⟨-1, by decide, by decide⟩
    least.nanos ≤ last.nanos ∧ least.millis ≤ last.millis ∧ last.seconds = -1 ∧
      floorQuotient? least.nanos nanosPerMilli = some least.millis ∧
      ¬ (ofMillis Int64.minValue).nanos ≤ least.nanos ∧
      (ofSeconds Int64.maxValue).seconds = 9223372036854775807 := by
  intro least last
  obtain ⟨hmillis, -, -, hmono, -, hseconds, -, -, hfloor, -⟩ :=
    units_bound least last Int64.minValue Int64.maxValue
  have hle : least.nanos ≤ last.nanos := by decide
  exact ⟨hle, (hmono hle).1, by decide, hfloor, mt hmillis.1 (by decide), hseconds⟩

end Timestamp

end Criteria
