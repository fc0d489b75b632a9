/-!
# Sets of code points

A character property is kept as the closed ranges of code points that have it,
in increasing order with a gap between any two of them.  A look-up walks the
ranges and stops at the first one that begins beyond the code point.
-/

namespace Criteria.Text

/-- Closed ranges of code points, each as its first and last member. -/
abbrev Ranges := List (Nat × Nat)

namespace Ranges

/-- Whether a code point lies in one of the ranges. -/
def has : Ranges → Nat → Bool
  | [], _ => false
  | (first, last) :: rest, n =>
    if n < first then false else if n ≤ last then true else has rest n

/-- Whether every range is non-empty, begins at `bound` or later, and leaves a
gap before the next one. -/
def ascendingFrom : Nat → Ranges → Bool
  | _, [] => true
  | bound, (first, last) :: rest =>
    decide (bound ≤ first) && decide (first ≤ last) && ascendingFrom (last + 2) rest

/-- Below the bound of increasing ranges nothing is found. -/
theorem has_eq_false_of_lt {bound n : Nat} {r : Ranges}
    (h : ascendingFrom bound r = true) (hn : n < bound) : has r n = false := by
  cases r with
  | nil => rfl
  | cons head rest =>
    obtain ⟨first, last⟩ := head
    simp only [ascendingFrom, Bool.and_eq_true, decide_eq_true_eq] at h
    have : n < first := Nat.lt_of_lt_of_le hn h.1.1
    simp [has, this]

/-- In increasing ranges the look-up finds exactly the members of the ranges. -/
theorem has_iff {bound n : Nat} {r : Ranges} (h : ascendingFrom bound r = true) :
    has r n = true ↔ ∃ p ∈ r, p.1 ≤ n ∧ n ≤ p.2 := by
  induction r generalizing bound with
  | nil => simp [has]
  | cons head rest ih =>
    obtain ⟨first, last⟩ := head
    simp only [ascendingFrom, Bool.and_eq_true, decide_eq_true_eq] at h
    obtain ⟨⟨_, horder⟩, hrest⟩ := h
    by_cases hlow : n < first
    · have hnone : has rest n = false := has_eq_false_of_lt hrest (by omega)
      have hmem : ¬ ∃ p ∈ rest, p.1 ≤ n ∧ n ≤ p.2 := by
        rw [← ih hrest, hnone]
        simp
      simp only [has, hlow, if_true, Bool.false_eq_true, List.mem_cons, false_iff]
      rintro ⟨p, rfl | hp, hle⟩
      · exact absurd hle.1 (by simpa using hlow)
      · exact hmem ⟨p, hp, hle⟩
    · by_cases hhigh : n ≤ last
      · simp only [has, hlow, hhigh, if_false, if_true, List.mem_cons, true_iff]
        exact ⟨(first, last), Or.inl rfl, by simp; omega⟩
      · simp only [has, hlow, hhigh, if_false, ih hrest, List.mem_cons]
        constructor
        · rintro ⟨p, hp, hle⟩
          exact ⟨p, Or.inr hp, hle⟩
        · rintro ⟨p, rfl | hp, hle⟩
          · exact absurd hle.2 (by simpa using hhigh)
          · exact ⟨p, hp, hle⟩

end Ranges

end Criteria.Text
