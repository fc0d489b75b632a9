import Criteria.Proofs.Record
import Criteria.Proofs.Synthesis.Leaves

/-!
# Synthesized formulas are well typed

Synthesis picks a test by the kind of the field that it is aimed at, and the test is run on whatever
cell the field holds.  `Test.For` says which tests belong to which kind.  A synthesized leaf tests
its field by a test for the field's kind (`Rules.for_of_test?`), and such a test always has
something to compare with a cell of that kind, unless the cell is null
(`Test.For.compare?_eq_none_iff`).
-/

namespace Criteria

namespace Test

/-- How the value of a test compares with that of a cell.  There is no comparison if the cell is
null or of a kind that the test is not made for. -/
def compare? : Test → Cell → Option Bool
  | textEquals value case, .text s => some (case.normalize s == value)
  | textContains value case, .text s =>
    some (Text.occursIn value.toList (case.normalize s).toList)
  | oneOf values case, .text s => some (values.contains (case.normalize s))
  | overlaps values case, .textList items =>
    some (items.any fun s => values.contains (case.normalize s))
  | date op value _, .date t => some (Timestamp.compareBy op value t)
  | date op value _, .optionalDate (some t) => some (Timestamp.compareBy op value t)
  | _, _ => none

/-- A test accepts a cell by a comparison, and rejects every cell that it has no comparison with. -/
theorem accepts_eq_compare? (test : Test) (cell : Cell) :
    test.accepts cell = (test.compare? cell).getD false := by
  cases test with
  | date op value nullable =>
    cases cell with
    | optionalDate t => cases t <;> rfl
    | _ => rfl
  | _ => cases cell <;> rfl

/-- The tests for fields of a kind. -/
inductive For : Kind → Test → Prop
  | textEquals (value : String) (case : Case) : For .text (textEquals value case)
  | textContains (value : String) (case : Case) : For .text (textContains value case)
  | oneOf (values : List String) (case : Case) : For .text (oneOf values case)
  | overlaps (values : List String) (case : Case) : For .textList (overlaps values case)
  | date (op : DateOp) (value : Timestamp) : For .date (date op value false)
  | optionalDate (op : DateOp) (value : Timestamp) : For .optionalDate (date op value true)

/-- A test for a kind lacks a comparison with a cell of that kind only if the cell is null. -/
theorem For.compare?_eq_none_iff {kind : Kind} {test : Test} {cell : Cell} (h : For kind test)
    (hcell : cell.fits kind = true) : test.compare? cell = none ↔ cell.isNull = true := by
  cases h with
  | textEquals value case | textContains value case | oneOf values case =>
    cases cell with
    | text s => simp [compare?, Cell.isNull]
    | none => simp [compare?, Cell.isNull]
    | _ => cases hcell
  | overlaps values case =>
    cases cell with
    | textList items => simp [compare?, Cell.isNull]
    | none => simp [compare?, Cell.isNull]
    | _ => cases hcell
  | date op value =>
    cases cell with
    | date t => simp [compare?, Cell.isNull]
    | _ => cases hcell
  | optionalDate op value =>
    cases cell with
    | optionalDate t => cases t <;> simp [compare?, Cell.isNull]
    | _ => cases hcell

/-- A date test for a kind heeds null instants exactly if the kind has them. -/
theorem For.date_iff {kind : Kind} {op : DateOp} {value : Timestamp} {nullable : Bool} :
    For kind (.date op value nullable) ↔ kind = if nullable then .optionalDate else .date := by
  constructor
  · intro h
    cases h <;> rfl
  · rintro rfl
    cases nullable with
    | false => exact .date op value
    | true => exact .optionalDate op value

end Test

theorem Rules.for_of_test? {rules : Rules} {reading : Reading} {kind : Kind} {test : Test}
    (h : rules.test? reading kind = some test) : Test.For kind test := by
  unfold test? at h
  split at h
  · split at h <;> cases h
    · exact .textEquals _ _
    · exact .textContains _ _
  · cases h; exact .oneOf _ _
  · cases h; exact .overlaps _ _
  · cases h; exact .date _ _
  · cases h; exact .optionalDate _ _
  · cases h

namespace Filter

/-- **Synthesized formulas are well typed.**  On a record of the schema, a leaf rejects a cell
without a comparison only if the cell is null, never for its kind.  A date leaf heeds null instants
exactly if its field may hold them, and one that does not heed them never meets a null cell. -/
theorem synthesize_well_typed {schema : Schema} {options : Options} {f : Filter} {p : Formula}
    (h : f.synthesize schema options = .ok (some p)) {r : Record} (hr : r.Conforms schema) :
    ∀ a ∈ p.leaves,
      a.accepts r = (a.test.compare? (r a.field)).getD false ∧
      (a.test.compare? (r a.field) = none ↔ (r a.field).isNull = true) ∧
      ∀ op value nullable, a.test = .date op value nullable →
        (nullable = true ↔ schema a.field = some .optionalDate) ∧
          (nullable = false → (r a.field).isNull = false) := by
  intro a ha
  obtain ⟨c, -, kind, hfield, -, htest⟩ := exists_criterion_of_mem_leaves h ha
  have hfor := Rules.for_of_test? htest
  have hcell := hr a.field kind hfield
  refine ⟨a.test.accepts_eq_compare? _, hfor.compare?_eq_none_iff hcell, ?_⟩
  intro op value nullable hdate
  rw [hdate, Test.For.date_iff] at hfor
  subst hfor
  rw [hfield]
  cases nullable with
  | false =>
    refine ⟨by simp, fun _ => ?_⟩
    cases hnull : r a.field with
    | date t => rfl
    | _ => rw [hnull] at hcell; cases hcell
  | true => exact ⟨by simp, by simp⟩

/-- A null text and a null date beside a date that is never null. -/
theorem synthesize_well_typed_null_cells :
    let rows : List (String × ColumnType × Cell) :=
      [("title", .text true, .none), ("due", .date .date true, .optionalDate none),
        ("made", .date .date false, .date (Timestamp.ofSeconds 7))]
    let schema := Schema.ofColumns (rows.map fun row => (row.1, row.2.1))
    let r := Record.ofCells (rows.map fun row => (row.1, row.2.2))
    let f := ofRows
      [(⟨"title", .text, {}⟩, .text (some "x")),
        (⟨"due", .optionalDate, {}⟩, .date (some (Timestamp.ofSeconds 5))),
        (⟨"made", .optionalDate, {}⟩, .date (some (Timestamp.ofSeconds 5)))] {}
    r.Conforms schema ∧ ∃ p, f.synthesize schema {} = .ok (some p) ∧ p.leaves.length = 3 ∧
      ∀ a ∈ p.leaves,
        a.accepts r = (a.test.compare? (r a.field)).getD false ∧
        (a.test.compare? (r a.field) = none ↔ (r a.field).isNull = true) ∧
        ∀ op value nullable, a.test = .date op value nullable →
          (nullable = true ↔ schema a.field = some .optionalDate) ∧
            (nullable = false → (r a.field).isNull = false) := by
  intro rows schema r f
  have hr : r.Conforms schema := Record.conforms_ofColumns (by decide)
  have hok : ∃ p, f.synthesize schema {} = .ok (some p) ∧ p.leaves.length = 3 := ⟨_, rfl, rfl⟩
  obtain ⟨p, h, hlength⟩ := hok
  exact ⟨hr, p, h, hlength, synthesize_well_typed h hr⟩

end Filter

end Criteria
