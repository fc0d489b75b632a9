import Criteria.Cell

/-!
# Records of a schema

A record conforms to a schema if each field's cell is one that a column of the field's kind gives
(`Cell.fits_iff`): a value of the kind, or an empty cell for a null text or list, or a null instant
for a null date.  Nothing is asked of fields that the schema does not have.
-/

namespace Criteria

namespace Cell

/-- Whether a cell occurs in a field of a kind. -/
def fits : Cell → Kind → Bool
  | text _, .text => true
  | textList _, .textList => true
  | none, .text => true
  | none, .textList => true
  | date _, .date => true
  | optionalDate _, .optionalDate => true
  | number, .number => true
  | bool _, .bool => true
  | _, _ => false

theorem fits_of_cell? {type : ColumnType} {value : Scalar} {cell : Cell}
    (h : type.cell? value = some cell) : cell.fits type.kind = true := by
  unfold ColumnType.cell? at h
  split at h
  -- a dating in another form than the column's has no cell
  case h_5 | h_6 =>
    split at h
    · cases h; rfl
    · cases h
  all_goals cases h
  all_goals rfl

/-- The cells of a kind are those that the column types of that kind give. -/
theorem fits_iff {cell : Cell} {kind : Kind} :
    cell.fits kind = true ↔
      ∃ (type : ColumnType) (value : Scalar), type.kind = kind ∧ type.cell? value = some cell := by
  constructor
  · intro h
    unfold fits at h
    split at h
    case h_1 s => exact ⟨.text false, .text s, rfl, rfl⟩
    case h_2 l => exact ⟨.textList false, .textList l, rfl, rfl⟩
    case h_3 => exact ⟨.text true, .null, rfl, rfl⟩
    case h_4 => exact ⟨.textList true, .null, rfl, rfl⟩
    case h_5 t => exact ⟨.date .timestamp false, .dated (.timestamp t), rfl, rfl⟩
    case h_6 t =>
      cases t with
      | none => exact ⟨.date .timestamp true, .null, rfl, rfl⟩
      | some t => exact ⟨.date .timestamp true, .dated (.timestamp t), rfl, rfl⟩
    case h_7 => exact ⟨.number, .number, rfl, rfl⟩
    case h_8 b => exact ⟨.bool, .bool b, rfl, rfl⟩
    case h_9 => cases h
  · rintro ⟨type, value, rfl, h⟩
    exact fits_of_cell? h

end Cell

namespace Record

/-- Whether the cells of a record occur in fields of the kinds that a schema gives them. -/
def Conforms (r : Record) (schema : Schema) : Prop :=
  ∀ name kind, schema name = some kind → (r name).fits kind = true

/-- A record whose cells fit their columns conforms to the columns' schema. -/
theorem conforms_ofColumns {rows : List (String × ColumnType × Cell)}
    (h : ∀ row ∈ rows, row.2.2.fits row.2.1.kind = true) :
    (ofCells (rows.map fun row => (row.1, row.2.2))).Conforms
      (Schema.ofColumns (rows.map fun row => (row.1, row.2.1))) := by
  intro name kind hkind
  unfold Schema.ofColumns at hkind
  unfold ofCells
  induction rows with
  | nil => cases hkind
  | cons row rows ih =>
    obtain ⟨hrow, hrows⟩ := List.forall_mem_cons.1 h
    rw [List.map_cons, List.lookup_cons] at hkind ⊢
    -- both sides look the name up in the same row
    cases hname : name == row.1 with
    | true =>
      rw [hname] at hkind
      cases hkind
      exact hrow
    | false =>
      rw [hname] at hkind
      exact ih hrows hkind

end Record

end Criteria
