import Criteria.Proofs.Test.Acceptance

/-!
# Tests of texts agree

A list test accepts what some value of its list accepts by itself: membership is equality with some
value (`Test.amongst_accepts_eq_any`), and overlap is membership of some text of the record
(`Test.sharing_accepts_eq_any`) as well as overlap with some value
(`Test.sharing_accepts_eq_any_values`).  So the two lists of an overlap may be exchanged, and
neither the order of the values nor how often they are repeated matters (`Test.text_tests_agree`).
-/

namespace Criteria

namespace Test

/-! ## Value by value -/

theorem amongst_accepts_eq_any (vs : List String) (case : Case) (cell : Cell) :
    (amongst vs case).accepts cell = vs.any fun v => (equalTo v case).accepts cell := by
  rw [Bool.eq_iff_iff, amongst_accepts_iff, List.any_eq_true]
  constructor
  · rintro ⟨s, rfl, v, hv, heq⟩
    exact ⟨v, hv, equalTo_accepts_iff.2 ⟨s, rfl, heq.symm⟩⟩
  · rintro ⟨v, hv, h⟩
    obtain ⟨s, rfl, heq⟩ := equalTo_accepts_iff.1 h
    exact ⟨s, rfl, v, hv, heq.symm⟩

theorem sharing_accepts_eq_any_values (vs : List String) (case : Case) (cell : Cell) :
    (sharing vs case).accepts cell = vs.any fun v => (sharing [v] case).accepts cell := by
  rw [Bool.eq_iff_iff, sharing_accepts_iff, List.any_eq_true]
  constructor
  · rintro ⟨items, rfl, s, hs, v, hv, heq⟩
    exact ⟨v, hv, sharing_accepts_iff.2 ⟨items, rfl, s, hs, v, List.mem_singleton_self v, heq⟩⟩
  · rintro ⟨v, hv, h⟩
    obtain ⟨items, rfl, s, hs, w, hw, heq⟩ := sharing_accepts_iff.1 h
    rw [List.mem_singleton.1 hw] at heq
    exact ⟨items, rfl, s, hs, v, hv, heq⟩

theorem sharing_accepts_eq_any (vs xs : List String) (case : Case) :
    (sharing vs case).accepts (.textList xs) =
      xs.any fun x => (amongst vs case).accepts (.text x) :=
  -- both tests look the texts of the record up in one normalized list
  rfl

theorem sharing_accepts_swap (vs xs : List String) (case : Case) :
    (sharing vs case).accepts (.textList xs) = (sharing xs case).accepts (.textList vs) := by
  have himp : ∀ {vs xs : List String}, (sharing vs case).accepts (.textList xs) = true →
      (sharing xs case).accepts (.textList vs) = true := by
    intro vs xs h
    obtain ⟨items, hitems, x, hx, v, hv, heq⟩ := sharing_accepts_iff.1 h
    cases hitems
    exact sharing_accepts_iff.2 ⟨vs, rfl, v, hv, x, hx, heq.symm⟩
  exact Bool.eq_iff_iff.2 ⟨himp, himp⟩

/-! ## Equality -/

theorem amongst_singleton_accepts (v : String) (case : Case) (cell : Cell) :
    (amongst [v] case).accepts cell = (equalTo v case).accepts cell := by
  rw [amongst_accepts_eq_any, List.any_cons, List.any_nil, Bool.or_false]

theorem containing_of_equalTo {v : String} {case : Case} {cell : Cell}
    (h : (equalTo v case).accepts cell = true) : (containing v case).accepts cell = true := by
  obtain ⟨s, rfl, hs⟩ := equalTo_accepts_iff.1 h
  exact containing_accepts_iff.2 ⟨s, rfl, hs ▸ List.infix_rfl⟩

/-! ## The values as a set -/

theorem any_eq_of_same_members {vs ws : List String} (h : ∀ x, x ∈ vs ↔ x ∈ ws)
    (p : String → Bool) : vs.any p = ws.any p := by
  rw [Bool.eq_iff_iff, List.any_eq_true, List.any_eq_true]
  simp only [h]

/-- **The tests of texts agree.**  The lists of an overlap may be exchanged, and an overlap is the
membership of some text of the record.  Membership in a list of one value is equality with it.  Over
two lists set end to end the list tests accept what they accept over one or the other; lists with
the same members make the same tests, and over no values nothing is accepted.  A text that is equal
to the filter's contains it. -/
theorem text_tests_agree (case : Case) :
    (∀ vs xs : List String,
      (sharing vs case).accepts (.textList xs) = (sharing xs case).accepts (.textList vs) ∧
      (sharing vs case).accepts (.textList xs) =
        xs.any fun x => (amongst vs case).accepts (.text x)) ∧
      (∀ (v : String) (cell : Cell),
        (amongst [v] case).accepts cell = (equalTo v case).accepts cell ∧
        ((equalTo v case).accepts cell = true → (containing v case).accepts cell = true)) ∧
      (∀ (vs ws : List String) (cell : Cell),
        ((amongst (vs ++ ws) case).accepts cell =
          ((amongst vs case).accepts cell || (amongst ws case).accepts cell)) ∧
        ((sharing (vs ++ ws) case).accepts cell =
          ((sharing vs case).accepts cell || (sharing ws case).accepts cell)) ∧
        ((∀ x, x ∈ vs ↔ x ∈ ws) →
          (amongst vs case).accepts cell = (amongst ws case).accepts cell ∧
          (sharing vs case).accepts cell = (sharing ws case).accepts cell)) ∧
      ∀ cell : Cell,
        (amongst [] case).accepts cell = false ∧ (sharing [] case).accepts cell = false := by
  refine ⟨fun vs xs => ⟨sharing_accepts_swap vs xs case, sharing_accepts_eq_any vs xs case⟩,
    fun v cell => ⟨amongst_singleton_accepts v case cell, containing_of_equalTo⟩,
    fun vs ws cell => ⟨?_, ?_, fun h => ⟨?_, ?_⟩⟩, fun cell => ⟨?_, ?_⟩⟩
  · rw [amongst_accepts_eq_any, List.any_append, ← amongst_accepts_eq_any,
      ← amongst_accepts_eq_any]
  · rw [sharing_accepts_eq_any_values, List.any_append, ← sharing_accepts_eq_any_values,
      ← sharing_accepts_eq_any_values]
  · rw [amongst_accepts_eq_any, any_eq_of_same_members h, ← amongst_accepts_eq_any]
  · rw [sharing_accepts_eq_any_values, any_eq_of_same_members h,
      ← sharing_accepts_eq_any_values]
  · rw [amongst_accepts_eq_any, List.any_nil]
  · rw [sharing_accepts_eq_any_values, List.any_nil]

/-- A repeated value beside the values in another order, and a text with other capitals. -/
theorem text_tests_agree_repeated_value :
    let vs := ["b", "a", "b"]
    let ws := ["a", "b"]
    (∀ x, x ∈ vs ↔ x ∈ ws) ∧
      (∀ cell : Cell,
        (amongst vs .insensitive).accepts cell = (amongst ws .insensitive).accepts cell ∧
        (sharing vs .insensitive).accepts cell = (sharing ws .insensitive).accepts cell) ∧
      (equalTo "Ab" .insensitive).accepts (.text "aB") = true ∧
      (containing "Ab" .insensitive).accepts (.text "aB") = true := by
  intro vs ws
  have hmembers : ∀ x, x ∈ vs ↔ x ∈ ws := by
    intro x
    simp only [vs, ws, List.mem_cons, List.not_mem_nil, or_false]
    rw [or_left_comm, or_self]
  have hequal : (equalTo "Ab" .insensitive).accepts (.text "aB") = true := by decide
  obtain ⟨-, hone, htwo, -⟩ := text_tests_agree .insensitive
  exact ⟨hmembers, fun cell => (htwo vs ws cell).2.2 hmembers, hequal, (hone "Ab" _).2 hequal⟩

end Test

end Criteria
