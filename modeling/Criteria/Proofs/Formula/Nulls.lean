import Criteria.Formula

/-!
# Formulas and null cells

No test accepts a null cell, and a formula has no negation: what it accepts can only grow as its
leaves accept more (`Formula.accepts_mono`), and it accepts a record only if some leaf does
(`Formula.exists_leaf_of_accepts`).  So cells that are made null never turn a record into a match
(`Formula.nulls_never_match`).
-/

namespace Criteria

/-- One record is another with the cells of some fields made null. -/
def Record.Blanks (blanked r : Record) : Prop :=
  ∀ name, blanked name = r name ∨ (blanked name).isNull = true

theorem Test.accepts_of_isNull {cell : Cell} (test : Test) (h : cell.isNull = true) :
    test.accepts cell = false := by
  cases cell with
  | none => cases test <;> rfl
  | optionalDate t =>
    cases t with
    | none => cases test <;> rfl
    | some t => cases h
  | _ => cases h

theorem Atom.accepts_of_isNull {a : Atom} {r : Record} (h : (r a.field).isNull = true) :
    a.accepts r = false :=
  a.test.accepts_of_isNull h

theorem Atom.accepts_of_blanks {a : Atom} {blanked r : Record} (hblanks : blanked.Blanks r)
    (h : a.accepts blanked = true) : a.accepts r = true := by
  rcases hblanks a.field with hcell | hnull
  · unfold accepts at h ⊢
    rw [← hcell]
    exact h
  · rw [accepts_of_isNull hnull] at h
    cases h

namespace Formula

/-- A formula accepts a record on which its leaves accept all that they accepted on another. -/
theorem accepts_mono {p : Formula} {r s : Record}
    (hleaves : ∀ a ∈ p.leaves, a.accepts r = true → a.accepts s = true) :
    p.accepts r = true → p.accepts s = true := by
  induction p with
  | leaf a => exact hleaves a List.mem_cons_self
  | and left right ihleft ihright =>
    obtain ⟨hleft, hright⟩ := List.forall_mem_append.1 hleaves
    simp only [accepts, Bool.and_eq_true]
    exact fun h => ⟨ihleft hleft h.1, ihright hright h.2⟩
  | or left right ihleft ihright =>
    obtain ⟨hleft, hright⟩ := List.forall_mem_append.1 hleaves
    simp only [accepts, Bool.or_eq_true]
    exact fun h => h.imp (ihleft hleft) (ihright hright)

theorem exists_leaf_of_accepts {p : Formula} {r : Record} (h : p.accepts r = true) :
    ∃ a ∈ p.leaves, a.accepts r = true := by
  induction p with
  | leaf a => exact ⟨a, List.mem_cons_self, h⟩
  | and left right ihleft ihright =>
    obtain ⟨a, ha, haccepts⟩ := ihleft (Bool.and_eq_true_iff.1 h).1
    exact ⟨a, List.mem_append_left _ ha, haccepts⟩
  | or left right ihleft ihright =>
    rcases Bool.or_eq_true_iff.1 h with hleft | hright
    · obtain ⟨a, ha, haccepts⟩ := ihleft hleft
      exact ⟨a, List.mem_append_left _ ha, haccepts⟩
    · obtain ⟨a, ha, haccepts⟩ := ihright hright
      exact ⟨a, List.mem_append_right _ ha, haccepts⟩

/-- **Nulls never make a match.**  A formula that accepts a record with some cells made null accepts
the record as it was, and no formula accepts a record whose cells are null in the fields of all its
leaves. -/
theorem nulls_never_match (p : Formula) (r : Record) :
    (∀ blanked : Record, blanked.Blanks r → p.accepts blanked = true → p.accepts r = true) ∧
      ((∀ a ∈ p.leaves, (r a.field).isNull = true) → p.accepts r = false) := by
  constructor
  · intro blanked hblanks
    exact accepts_mono fun a _ => Atom.accepts_of_blanks hblanks
  · intro hnull
    refine Bool.eq_false_iff.2 fun h => ?_
    obtain ⟨a, ha, haccepts⟩ := exists_leaf_of_accepts h
    rw [Atom.accepts_of_isNull (hnull a ha)] at haccepts
    cases haccepts

/-- A record is accepted for its title with its date made null, so it is accepted as it was; with
both made null it is rejected, since a null date is no other date and a null text holds no text. -/
theorem nulls_never_match_null_date :
    let p : Formula := .or
      (.leaf ⟨"due", .date .inequality (Timestamp.ofSeconds 0) true⟩)
      (.leaf ⟨"title", Test.containing "" .sensitive⟩)
    let r := Record.ofCells
      [("due", .optionalDate (some (Timestamp.ofSeconds 7))), ("title", .text "x")]
    let undated : Record := fun name => if name = "due" then .optionalDate none else r name
    let empty := Record.ofCells [("due", .optionalDate none)]
    (undated.Blanks r ∧ p.accepts undated = true ∧ p.accepts r = true) ∧
      (∀ a ∈ p.leaves, (empty a.field).isNull = true) ∧ p.accepts empty = false := by
  intro p r undated empty
  have hblanks : undated.Blanks r := by
    intro name
    by_cases hname : name = "due"
    · exact .inr (by simp only [undated, hname, if_true, Cell.isNull])
    · exact .inl (if_neg hname)
  have hundated : p.accepts undated = true := by decide
  have hempty : ∀ a ∈ p.leaves, (empty a.field).isNull = true :=
    List.forall_mem_cons.2 ⟨rfl, List.forall_mem_singleton.2 rfl⟩
  exact ⟨⟨hblanks, hundated, (nulls_never_match p r).1 undated hblanks hundated⟩, hempty,
    (nulls_never_match p empty).2 hempty⟩

end Formula

end Criteria
