import Criteria.Json.Decode
import Criteria.Proofs.Json.Writing

/-!
# Integers in texts

Which numerals mean integers (`number?_eq_integer_iff`), and which values are taken for numbers of
32 bits (`decodeInt32_eq_ok_iff`): those that spell an integer in range, digit by digit.  A negative
zero is none, for it means a fraction.
-/

namespace Criteria

namespace Numeral

theorem digitsValue_toDigits (n : Nat) : digitsValue (Nat.toDigits 10 n) = n :=
  Nat.ofDigitChars_ten_toDigits

theorem integer?_ofInt (n : Int) : (ofInt n).integer? = some n := by
  simp only [integer?, ofInt, Option.isNone_none, and_self, if_true, digitsValue_toDigits,
    Option.some.injEq, decide_eq_true_eq]
  split <;> omega

theorem signed_ne_integer {m : Numeral} {found : Option Float} {n : Int} :
    found.map m.signed ≠ some (.integer n) := by
  cases found <;> simp [signed]

/-- A numeral means an integer if it spells one of up to 64 bits, and no negative zero. -/
theorem number?_eq_integer_iff {m : Numeral} {n : Int} :
    m.number? = some (.integer n) ↔
      m.integer? = some n ∧ (n = 0 → m.negative = false) ∧
        -9223372036854775808 ≤ n ∧ n ≤ 18446744073709551615 := by
  by_cases hplain : m.fraction.isNone ∧ m.exponent.isNone
  · have hinteger : m.integer? =
        some (if m.negative then -(digitsValue m.whole : Int) else digitsValue m.whole) :=
      if_pos hplain
    by_cases hmax : digitsValue m.whole ≤ maxSignificand
    · unfold maxSignificand at hmax
      cases hsign : m.negative with
      | false =>
        have hnumber : m.number? = some (.integer (digitsValue m.whole)) := by
          simp [number?, maxSignificand, hplain, hmax, hsign]
        rw [hnumber, hinteger, hsign]
        simp only [Option.some.injEq, Number.integer.injEq, Bool.false_eq_true, if_false,
          implies_true, true_and]
        omega
      | true =>
        by_cases hnone : digitsValue m.whole = 0 ∨ 9223372036854775808 < digitsValue m.whole
        · -- a negative zero, and what is too small for 64 bits, are fractions
          have hnumber : m.number? = (some (UInt64.ofNat (digitsValue m.whole)).toFloat).map
              m.signed := by
            simp [number?, maxSignificand, hplain, hmax, hsign, hnone]
          rw [hnumber, hinteger, hsign]
          refine iff_of_false signed_ne_integer ?_
          simp only [Option.some.injEq, if_true, Bool.true_eq_false, imp_false]
          omega
        · have hnumber : m.number? = some (.integer (-(digitsValue m.whole : Int))) := by
            simp [number?, maxSignificand, hplain, hmax, hsign, hnone]
          rw [hnumber, hinteger, hsign]
          simp only [Option.some.injEq, Number.integer.injEq, if_true, Bool.true_eq_false,
            imp_false]
          omega
    · -- so is what is too large, with either sign
      have hnumber : m.number? = m.size?.map m.signed := by
        simp [number?, hmax]
      rw [hnumber, hinteger]
      unfold maxSignificand at hmax
      refine iff_of_false signed_ne_integer ?_
      rw [Option.some.injEq]
      split <;> omega
  · have hnumber : m.number? = m.size?.map m.signed :=
      if_neg fun h => hplain ⟨h.1, h.2.1⟩
    have hinteger : m.integer? = none := if_neg hplain
    rw [hnumber, hinteger]
    refine iff_of_false signed_ne_integer ?_
    rintro ⟨h, -⟩
    cases h

end Numeral

namespace Json

theorem mismatch_ne_ok {α : Type} {expected : String} {j : Json} {x : α} :
    mismatch expected j ≠ .ok x := by
  intro h
  unfold mismatch at h
  split at h
  · cases h
  · cases h
  · split at h <;> cases h
  all_goals cases h

/-- Whether a value spells a number of 32 bits: an integer, without a fraction or an exponent and
not as a negative zero. -/
def IsInt32 (j : Json) (x : Int32) : Prop :=
  ∃ m, j = .number m ∧ m.integer? = some x.toInt ∧ (x = 0 → m.negative = false)

theorem decodeInt32_number {m : Numeral} {x : Int32} :
    decodeInt32 (.number m) = .ok x ↔ m.number? = some (.integer x.toInt) := by
  have hmin := x.le_toInt
  have hmax := x.toInt_lt
  simp only [decodeInt32]
  split
  · next value hvalue =>
    rw [hvalue, Option.some.injEq, Number.integer.injEq]
    split
    · next hrange =>
      rw [Except.ok.injEq]
      constructor
      · rintro rfl
        rw [Int32.toInt_ofInt_of_le (by omega) (by omega)]
      · rintro rfl
        exact Int32.ofInt_toInt x
    · next hrange =>
      refine iff_of_false (by simp) ?_
      rintro rfl
      omega
  · next hvalue =>
    refine iff_of_false mismatch_ne_ok ?_
    exact hvalue _

theorem decodeInt32_eq_ok_iff {j : Json} {x : Int32} : decodeInt32 j = .ok x ↔ j.IsInt32 x := by
  have hmin := x.le_toInt
  have hmax := x.toInt_lt
  have hzero : x = 0 ↔ x.toInt = 0 := by
    rw [← Int32.toInt_inj]
    rfl
  cases j with
  | number m =>
    rw [decodeInt32_number, Numeral.number?_eq_integer_iff, ← hzero]
    constructor
    · rintro ⟨hinteger, hsign, -⟩
      exact ⟨m, rfl, hinteger, hsign⟩
    · rintro ⟨_, heq, hinteger, hsign⟩
      cases heq
      exact ⟨hinteger, hsign, by omega, by omega⟩
  | _ =>
    unfold decodeInt32
    refine iff_of_false mismatch_ne_ok ?_
    rintro ⟨m, heq, -⟩
    cases heq

theorem isInt32_ofInt (x : Int32) : IsInt32 (.number (.ofInt x.toInt)) x := by
  refine ⟨_, rfl, Numeral.integer?_ofInt x.toInt, ?_⟩
  rintro rfl
  rfl

theorem not_isInt32 {m : Numeral} {n : Int} (hn : m.integer? = some n)
    (hrange : ¬(-2147483648 ≤ n ∧ n ≤ 2147483647)) (x : Int32) : ¬IsInt32 (.number m) x := by
  rintro ⟨_, heq, hinteger, -⟩
  cases heq
  rw [hn, Option.some.injEq] at hinteger
  have hmin := x.le_toInt
  have hmax := x.toInt_lt
  omega

/-- Whether a value is a truth value. -/
def IsBool (j : Json) (b : Bool) : Prop :=
  j = .bool b

theorem decodeBool_eq_ok_iff {j : Json} {b : Bool} : decodeBool j = .ok b ↔ j.IsBool b := by
  unfold decodeBool IsBool
  cases j with
  | bool value => simp
  | _ => simp [mismatch_ne_ok]

end Json

end Criteria
