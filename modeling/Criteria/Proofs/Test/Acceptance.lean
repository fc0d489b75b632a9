import Criteria.Test

/-!
# What a test accepts

Which cells each test built from a raw value accepts, said of the value as the filter holds it:
the value is normalized once when the test is built, the record's side when it is run, and both
by the case of the test.
-/

namespace Criteria

/-! ## Comparison of instants -/

namespace DateOp

/-- The relation between a filter's number and a record's that a comparison stands for. -/
def Relates (op : DateOp) (filter record : Int) : Prop :=
  match op with
  | equality => filter = record
  | inequality => filter ≠ record
  | lessThan => filter < record
  | lessThanOrEqual => filter ≤ record
  | greaterThan => record < filter
  | greaterThanOrEqual => record ≤ filter

theorem eval_iff (op : DateOp) (filter record : Int) :
    op.eval filter record = true ↔ op.Relates filter record := by
  unfold eval
  cases op <;> rcases h : compare filter record <;>
    simp only [Int.compare_eq_lt, Int.compare_eq_eq, Int.compare_eq_gt] at h <;>
    simp [holdsFor, Relates] <;> omega

end DateOp

/-! ## Tests of a cell -/

namespace Test

variable {case : Case} {cell : Cell}

theorem equalTo_accepts_iff {value : String} :
    (equalTo value case).accepts cell = true ↔
      ∃ s, cell = .text s ∧ case.normalize s = case.normalize value := by
  cases cell <;> simp [equalTo, accepts]

theorem containing_accepts_iff {value : String} :
    (containing value case).accepts cell = true ↔
      ∃ s, cell = .text s ∧ (case.normalize value).toList <:+: (case.normalize s).toList := by
  cases cell with
  | text s =>
    simp only [containing, accepts, Text.occursIn_iff, Cell.text.injEq, exists_eq_left',
      List.IsInfix]
    exact ⟨fun ⟨before, after, h⟩ => ⟨before, after, h.symm⟩,
      fun ⟨before, after, h⟩ => ⟨before, after, h.symm⟩⟩
  | _ => simp [containing, accepts]

theorem amongst_accepts_iff {values : List String} :
    (amongst values case).accepts cell = true ↔
      ∃ s, cell = .text s ∧ ∃ v ∈ values, case.normalize v = case.normalize s := by
  cases cell <;> simp [amongst, accepts]

theorem sharing_accepts_iff {values : List String} :
    (sharing values case).accepts cell = true ↔
      ∃ items, cell = .textList items ∧
        ∃ s ∈ items, ∃ v ∈ values, case.normalize v = case.normalize s := by
  cases cell <;> simp [sharing, accepts]

theorem date_accepts_iff {op : DateOp} {value : Timestamp} {nullable : Bool} :
    (date op value nullable).accepts cell = true ↔
      ∃ t, (cell = .date t ∨ cell = .optionalDate (some t)) ∧
        op.Relates value.nanos t.nanos := by
  cases cell with
  | date t => simp [accepts, Timestamp.compareBy, DateOp.eval_iff]
  | optionalDate t => cases t <;> simp [accepts, Timestamp.compareBy, DateOp.eval_iff]
  | _ => simp [accepts]

end Test

end Criteria
