import Criteria.Criterion

/-!
# Usable tables

What the check of a table comes to: it has rows, each row by itself is usable, and no two rows
have one name.  The names used so far are the invariant of the walk over the rows.

* `Table.check_eq_ok_iff`: the usable tables.
* `Table.checkRows_eq_error_iff`: the walk stops at the first place with a fault.
* `Table.check_first_fault`: both together, and that the order of the rows decides only which
  fault is found.
-/

namespace Criteria

theorem Kind.isFilterable_iff {k : Kind} :
    k.isFilterable = true ↔ k = .text ∨ k = .textList ∨ k = .optionalDate := by
  cases k <;> simp [isFilterable]

namespace Table

/-! ## Usable tables -/

theorem rowFault?_eq_none_iff {used : List String} {c : Criterion} :
    rowFault? used c = none ↔
      (c.name ≠ "" ∧ c.kind.isFilterable = true) ∧ c.name ∉ used := by
  unfold rowFault?
  by_cases hname : c.name = ""
  · simp [hname]
  · cases hkind : c.kind.isFilterable with
    | false => simp [hname]
    | true => simp [hname]

theorem checkRows_eq_ok_iff {used : List String} {t : Table} :
    checkRows used t = .ok () ↔
      (∀ c ∈ t, (c.name ≠ "" ∧ c.kind.isFilterable = true) ∧ c.name ∉ used) ∧
        (t.map Criterion.name).Nodup := by
  induction t generalizing used with
  | nil => simp [checkRows]
  | cons c rest ih =>
    have hrow := @rowFault?_eq_none_iff used c
    simp only [checkRows, List.forall_mem_cons, List.map_cons, List.nodup_cons]
    cases hfault : rowFault? used c with
    | some fault =>
      rw [hfault] at hrow
      simp only [reduceCtorEq, false_iff] at hrow ⊢
      exact fun h => hrow h.1.1
    | none =>
      simp only [ih, ← hrow, hfault, true_and, List.mem_cons, not_or, List.mem_map, not_exists]
      constructor
      · rintro ⟨hrows, hnodup⟩
        exact ⟨fun d hd => ⟨(hrows d hd).1, (hrows d hd).2.2⟩,
          fun d ⟨hd, hname⟩ => (hrows d hd).2.1 hname, hnodup⟩
      · rintro ⟨hrows, hnew, hnodup⟩
        exact ⟨fun d hd => ⟨(hrows d hd).1, fun hname => hnew d ⟨hd, hname⟩, (hrows d hd).2⟩,
          hnodup⟩

/-- A table is usable exactly if it has rows, every row has a name and a kind that can be filtered
by, and no name occurs twice. -/
theorem check_eq_ok_iff {t : Table} :
    t.check = .ok () ↔
      t ≠ [] ∧ (∀ c ∈ t, c.name ≠ "" ∧ c.kind.isFilterable = true) ∧
        (t.map Criterion.name).Nodup := by
  cases t with
  | nil => simp [check]
  | cons c rest =>
    rw [check, checkRows_eq_ok_iff]
    simp only [List.not_mem_nil, not_false_eq_true, and_true, ne_eq, reduceCtorEq, true_and]

/-- Usable rows are usable in every order. -/
theorem check_eq_ok_iff_of_perm {t t' : Table} (h : t.Perm t') :
    t.check = .ok () ↔ t'.check = .ok () := by
  have hnil : t = [] ↔ t' = [] := by
    constructor
    · rintro rfl
      exact h.nil_eq.symm
    · rintro rfl
      exact h.eq_nil
  rw [check_eq_ok_iff, check_eq_ok_iff, (h.map Criterion.name).nodup_iff, ne_eq, ne_eq, hnil]
  simp only [h.mem_iff]

/-- What is wrong with a row that comes after others.  Of several faults of one row an empty name
comes first, then the kind, then the namesake. -/
inductive RowFault (earlier : Table) (c : Criterion) : Fault → Prop
  | emptyName (hname : c.name = "") : RowFault earlier c .emptyName
  | unsupportedKind (hname : c.name ≠ "")
      (hkind : ¬ (c.kind = .text ∨ c.kind = .textList ∨ c.kind = .optionalDate)) :
      RowFault earlier c (.unsupportedKind c.name c.kind)
  | duplicateField (hname : c.name ≠ "")
      (hkind : c.kind = .text ∨ c.kind = .textList ∨ c.kind = .optionalDate)
      (hused : ∃ d ∈ earlier, d.name = c.name) :
      RowFault earlier c (.duplicateField c.name)

/-- Whether the row at a place of the table has a fault. -/
def FaultAt (t : Table) (i : Nat) (fault : Fault) : Prop :=
  ∃ c, t[i]? = some c ∧ RowFault (t.take i) c fault

theorem rowFault?_eq_some_iff {earlier : Table} {c : Criterion} {fault : Fault} :
    rowFault? (earlier.map Criterion.name).reverse c = some fault ↔ RowFault earlier c fault := by
  have hused : c.name ∈ (earlier.map Criterion.name).reverse ↔ ∃ d ∈ earlier, d.name = c.name := by
    rw [List.mem_reverse, List.mem_map]
  constructor
  · intro h
    unfold rowFault? at h
    split at h
    · next hname =>
      cases h
      exact .emptyName hname
    · next hname =>
      split at h
      · next hkind =>
        cases h
        exact .unsupportedKind hname (by simpa [← Kind.isFilterable_iff] using hkind)
      · next hkind =>
        have hkind : c.kind.isFilterable = true := by simpa using hkind
        split at h
        · next hcontains =>
          cases h
          have hmem : c.name ∈ (earlier.map Criterion.name).reverse := by simpa using hcontains
          exact .duplicateField hname (Kind.isFilterable_iff.1 hkind) (hused.1 hmem)
        · cases h
  · intro h
    unfold rowFault?
    cases h with
    | emptyName hname => rw [if_pos hname]
    | unsupportedKind hname hkind =>
      rw [← Kind.isFilterable_iff] at hkind
      rw [if_neg hname, if_pos (by simpa using hkind)]
    | duplicateField hname hkind hsome =>
      rw [← Kind.isFilterable_iff] at hkind
      rw [if_neg hname, if_neg (by simp [hkind]), if_pos (by simpa using hused.2 hsome)]

theorem faultAt_length {earlier rest : Table} {c : Criterion} {fault : Fault} :
    (earlier ++ c :: rest).FaultAt earlier.length fault ↔ RowFault earlier c fault := by
  simp [FaultAt]

/-- From where the walk stands, it stops at the first place of the table with a fault. -/
theorem checkRows_eq_error_iff {earlier rest : Table} {fault : Fault} :
    checkRows (earlier.map Criterion.name).reverse rest = .error fault ↔
      ∃ i, earlier.length ≤ i ∧ (earlier ++ rest).FaultAt i fault ∧
        ∀ j, earlier.length ≤ j → j < i → ∀ other, ¬ (earlier ++ rest).FaultAt j other := by
  induction rest generalizing earlier with
  | nil =>
    simp only [checkRows, List.append_nil, reduceCtorEq, false_iff]
    rintro ⟨i, hi, ⟨c, hc, -⟩, -⟩
    rw [List.getElem?_eq_none hi] at hc
    cases hc
  | cons c rest ih =>
    rw [checkRows]
    cases hrow : rowFault? (earlier.map Criterion.name).reverse c with
    | some found =>
      have hfound : (earlier ++ c :: rest).FaultAt earlier.length found :=
        faultAt_length.2 (rowFault?_eq_some_iff.1 hrow)
      simp only [Except.error.injEq]
      constructor
      · rintro rfl
        exact ⟨earlier.length, Nat.le_refl _, hfound, fun j hj hlt => absurd hlt (by omega)⟩
      · rintro ⟨i, hi, hat, hfirst⟩
        rcases Nat.eq_or_lt_of_le hi with rfl | hlt
        · rw [faultAt_length, ← rowFault?_eq_some_iff, hrow] at hat
          exact Option.some.inj hat
        · exact absurd hfound (hfirst _ (Nat.le_refl _) hlt found)
    | none =>
      have hclean : ∀ other, ¬ (earlier ++ c :: rest).FaultAt earlier.length other := by
        intro other hother
        rw [faultAt_length, ← rowFault?_eq_some_iff, hrow] at hother
        cases hother
      -- the row joins the earlier ones, and the places stay what they are
      have hnext := @ih (earlier ++ [c])
      rw [List.map_append, List.reverse_append, List.append_assoc, List.length_append] at hnext
      refine hnext.trans ⟨?_, ?_⟩
      · rintro ⟨i, hi, hat, hfirst⟩
        refine ⟨i, Nat.le_of_succ_le hi, hat, fun j hj hlt => ?_⟩
        rcases Nat.eq_or_lt_of_le hj with rfl | hj
        · exact hclean
        · exact hfirst j hj hlt
      · rintro ⟨i, hi, hat, hfirst⟩
        rcases Nat.eq_or_lt_of_le hi with rfl | hlt
        · exact absurd hat (hclean fault)
        · exact ⟨i, hlt, hat, fun j hj => hfirst j (Nat.le_of_succ_le hj)⟩

/-- **What the check of a table says.**  It accepts the tables that have rows, each with a name, a
kind that can be filtered by and no namesake, in whatever order.  Of any other table it reports
that there are no rows, or the fault of the first row that has one. -/
theorem check_first_fault (t : Table) :
    (t.check = .ok () ↔
      t ≠ [] ∧
        (∀ c ∈ t, c.name ≠ "" ∧
          (c.kind = .text ∨ c.kind = .textList ∨ c.kind = .optionalDate)) ∧
        (t.map Criterion.name).Nodup) ∧
    (∀ fault, t.check = .error fault ↔
      (t = [] ∧ fault = .noCriteria) ∨
        ∃ i, t.FaultAt i fault ∧ ∀ j < i, ∀ other, ¬ t.FaultAt j other) ∧
    ∀ t' : Table, t.Perm t' → (t.check = .ok () ↔ t'.check = .ok ()) := by
  refine ⟨?_, fun fault => ?_, fun t' => check_eq_ok_iff_of_perm⟩
  · simp only [check_eq_ok_iff, Kind.isFilterable_iff]
  · cases t with
    | nil => simp [check, FaultAt, eq_comm]
    | cons c rest =>
      have hrows := @checkRows_eq_error_iff [] (c :: rest) fault
      simpa [check] using hrows

-- The kind of the second row is found before its name, and before the row without one.
example :
    Table.check [⟨"title", .text, {}⟩, ⟨"title", .number, {}⟩, ⟨"", .text, {}⟩] =
      .error (.unsupportedKind "title" .number) := by
  rfl

end Table

end Criteria
