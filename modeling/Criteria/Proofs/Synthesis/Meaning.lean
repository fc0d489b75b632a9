import Criteria.Proofs.Synthesis.Step
import Criteria.Proofs.Test.Acceptance
import Mathlib.Data.List.Induction

/-!
# The meaning of a synthesized formula

Leaves are joined from the left, so a disjunction reaches back over everything before it.  A
record therefore satisfies the formula exactly if it satisfies some criterion that restarts the
formula (the first, or one joined by disjunction) and every conjunction after that one
(`Admits`).  The invariant of the fold is `Admits` of the criteria joined so far; joining one
more criterion changes it as `admits_concat_and` and `admits_concat_or` say.

The condition of a criterion (`Rules.Holds`) is said of the value as the filter holds it.
-/

namespace Criteria

/-! ## Restarts -/

/-- Some row holds that is the first or joined by disjunction, and so does every row after it
that is joined by conjunction. -/
def Admits {α : Type} (logic : α → Logic) (holds : α → Prop) (rows : List α) : Prop :=
  ∃ j row, rows[j]? = some row ∧ (j = 0 ∨ logic row = .or) ∧ holds row ∧
    ∀ k later, j < k → rows[k]? = some later → logic later = .and → holds later

section Admits

variable {α β γ : Type} {logic : α → Logic} {holds : α → Prop}

theorem admits_singleton {x : α} : Admits logic holds [x] ↔ holds x := by
  constructor
  · rintro ⟨j, row, hrow, -, hholds, -⟩
    obtain ⟨-, rfl⟩ : j = 0 ∧ x = row := by simpa [List.getElem?_singleton] using hrow
    exact hholds
  · intro h
    refine ⟨0, x, rfl, Or.inl rfl, h, fun k later hk hlater => ?_⟩
    rw [List.getElem?_eq_none (Nat.succ_le_of_lt hk)] at hlater
    cases hlater

/-- A row of a list with one more at its end is one of the list or the last. -/
theorem getElem?_concat_eq_some_iff {rows : List α} {x row : α} {j : Nat} :
    (rows ++ [x])[j]? = some row ↔ rows[j]? = some row ∨ (j = rows.length ∧ x = row) := by
  rw [List.getElem?_append]
  split
  · next hj =>
    exact ⟨Or.inl, fun h => h.resolve_right fun hlast => absurd hj (by omega)⟩
  · next hj =>
    rw [List.getElem?_eq_none (Nat.le_of_not_lt hj), List.getElem?_singleton]
    simp only [reduceCtorEq, false_or, Option.ite_none_right_eq_some, Option.some.injEq]
    exact and_congr_left fun _ => by omega

/-- A conjunction at the end is one more thing to satisfy. -/
theorem admits_concat_and {rows : List α} {x : α} (hne : rows ≠ []) (hx : logic x = .and) :
    Admits logic holds (rows ++ [x]) ↔ Admits logic holds rows ∧ holds x := by
  have hpos : 0 < rows.length := List.length_pos_iff.2 hne
  constructor
  · rintro ⟨j, row, hrow, hfirst, hholds, hlater⟩
    rcases getElem?_concat_eq_some_iff.1 hrow with hrow | ⟨rfl, rfl⟩
    · have hj : j < rows.length := (List.getElem?_eq_some_iff.1 hrow).1
      refine ⟨⟨j, row, hrow, hfirst, hholds, fun k later hk hget => ?_⟩, ?_⟩
      · exact hlater k later hk (getElem?_concat_eq_some_iff.2 (Or.inl hget))
      · exact hlater rows.length x hj (getElem?_concat_eq_some_iff.2 (Or.inr ⟨rfl, rfl⟩)) hx
    · -- the last row is a conjunction and not the first, so nothing restarts there
      rcases hfirst with hzero | hor
      · omega
      · rw [hx] at hor
        cases hor
  · rintro ⟨⟨j, row, hrow, hfirst, hholds, hlater⟩, hlast⟩
    refine ⟨j, row, getElem?_concat_eq_some_iff.2 (Or.inl hrow), hfirst, hholds, ?_⟩
    intro k later hk hget hand
    rcases getElem?_concat_eq_some_iff.1 hget with hget | ⟨-, rfl⟩
    · exact hlater k later hk hget hand
    · exact hlast

/-- A disjunction at the end is one more way to be admitted. -/
theorem admits_concat_or {rows : List α} {x : α} (hx : logic x = .or) :
    Admits logic holds (rows ++ [x]) ↔ Admits logic holds rows ∨ holds x := by
  constructor
  · rintro ⟨j, row, hrow, hfirst, hholds, hlater⟩
    rcases getElem?_concat_eq_some_iff.1 hrow with hrow | ⟨-, rfl⟩
    · refine Or.inl ⟨j, row, hrow, hfirst, hholds, fun k later hk hget => ?_⟩
      exact hlater k later hk (getElem?_concat_eq_some_iff.2 (Or.inl hget))
    · exact Or.inr hholds
  · rintro (⟨j, row, hrow, hfirst, hholds, hlater⟩ | hlast)
    · refine ⟨j, row, getElem?_concat_eq_some_iff.2 (Or.inl hrow), hfirst, hholds, ?_⟩
      intro k later hk hget hand
      rcases getElem?_concat_eq_some_iff.1 hget with hget | ⟨-, rfl⟩
      · exact hlater k later hk hget hand
      · rw [hx] at hand
        cases hand
    · refine ⟨rows.length, x, by simp, Or.inr hx, hlast, fun k later hk hget => ?_⟩
      rw [List.getElem?_eq_none (by simp; omega)] at hget
      cases hget

/-- Rows that correspond one by one, with the same logic and the same truth, admit alike. -/
theorem Admits.of_map_eq {logic' : β → Logic} {holds' : β → Prop} {f : α → γ} {g : β → γ}
    {xs : List α} {ys : List β}
    (hagree : ∀ x ∈ xs, ∀ y ∈ ys, f x = g y → logic x = logic' y ∧ (holds x ↔ holds' y))
    (hmap : xs.map f = ys.map g) (h : Admits logic holds xs) : Admits logic' holds' ys := by
  have hget : ∀ i : Nat, xs[i]?.map f = ys[i]?.map g := fun i => by
    rw [← List.getElem?_map, hmap, List.getElem?_map]
  obtain ⟨j, x, hx, hfirst, hholds, hlater⟩ := h
  have hj := hget j
  rw [hx] at hj
  obtain ⟨y, hy, hfg⟩ := Option.map_eq_some_iff.1 hj.symm
  obtain ⟨hlogic, hiff⟩ :=
    hagree x (List.mem_of_getElem? hx) y (List.mem_of_getElem? hy) hfg.symm
  refine ⟨j, y, hy, hfirst.imp_right fun hor => hlogic ▸ hor, hiff.1 hholds, ?_⟩
  intro k later hk hlast hand
  have hkget := hget k
  rw [hlast] at hkget
  obtain ⟨x', hx', hfg'⟩ := Option.map_eq_some_iff.1 hkget
  obtain ⟨hlogic', hiff'⟩ :=
    hagree x' (List.mem_of_getElem? hx') later (List.mem_of_getElem? hlast) hfg'
  exact hiff'.1 (hlater k x' hk hx' (hlogic'.trans hand))

end Admits

/-! ## The fold of the leaves -/

namespace Formula

theorem ofLeaves?_concat (parts : List (Logic × Atom)) (part : Logic × Atom) :
    ofLeaves? (parts ++ [part]) = extend (ofLeaves? parts) part := by
  simp [ofLeaves?]

theorem ofLeaves?_eq_none_iff {parts : List (Logic × Atom)} :
    ofLeaves? parts = none ↔ parts = [] := by
  induction parts using List.reverseRecOn with
  | nil => simp [ofLeaves?]
  | append_singleton parts part _ =>
    rw [ofLeaves?_concat]
    cases ofLeaves? parts <;> simp [extend]

theorem join_accepts (logic : Logic) (left right : Formula) (r : Record) :
    (join logic left right).accepts r = true ↔
      (logic = .and ∧ left.accepts r = true ∧ right.accepts r = true) ∨
        (logic = .or ∧ (left.accepts r = true ∨ right.accepts r = true)) := by
  cases logic <;> simp [join, accepts]

/-- The joined leaves accept a record exactly if their restarts admit it. -/
theorem accepts_ofLeaves? {parts : List (Logic × Atom)} {p : Formula}
    (h : ofLeaves? parts = some p) (r : Record) :
    p.accepts r = true ↔ Admits Prod.fst (fun part => part.2.accepts r = true) parts := by
  induction parts using List.reverseRecOn generalizing p with
  | nil => cases h
  | append_singleton parts part ih =>
    rw [ofLeaves?_concat] at h
    cases hparts : ofLeaves? parts with
    | none =>
      rw [hparts] at h
      cases h
      rw [ofLeaves?_eq_none_iff.1 hparts, List.nil_append, admits_singleton]
      rfl
    | some q =>
      have hne : parts ≠ [] := by
        rintro rfl
        cases hparts
      rw [hparts] at h
      cases h
      rw [join_accepts, ih hparts]
      cases hlogic : part.1 with
      | and => simp [admits_concat_and hne hlogic, accepts]
      | or => simp [admits_concat_or hlogic, accepts]

end Formula

/-! ## The condition of a criterion -/

/-- The condition that a raw value of a filter, aimed at a field of a kind, puts on the field's
cell. -/
def Rules.Holds (rules : Rules) (cell : Cell) : Reading → Kind → Prop
  | .text (some value), .text =>
    ∃ s, cell = .text s ∧
      match rules.textMatch with
      | .equals => rules.case.normalize s = rules.case.normalize value
      | .contains => (rules.case.normalize value).toList <:+: (rules.case.normalize s).toList
  | .textList (some values), .text =>
    ∃ s, cell = .text s ∧ ∃ v ∈ values, rules.case.normalize v = rules.case.normalize s
  | .textList (some values), .textList =>
    ∃ items, cell = .textList items ∧
      ∃ s ∈ items, ∃ v ∈ values, rules.case.normalize v = rules.case.normalize s
  | .date (some value), .date =>
    ∃ t, (cell = .date t ∨ cell = .optionalDate (some t)) ∧
      rules.dateOp.Relates value.nanos t.nanos
  | .date (some value), .optionalDate =>
    ∃ t, (cell = .date t ∨ cell = .optionalDate (some t)) ∧
      rules.dateOp.Relates value.nanos t.nanos
  | _, _ => False

/-- The test of a value accepts the cells that meet the value's condition. -/
theorem Rules.test?_accepts_iff {rules : Rules} {reading : Reading} {kind : Kind} {test : Test}
    (h : rules.test? reading kind = some test) (cell : Cell) :
    test.accepts cell = true ↔ rules.Holds cell reading kind := by
  unfold test? at h
  split at h
  · split at h
    · next heq =>
      cases h
      simp only [Holds, heq, Test.equalTo_accepts_iff]
    · next heq =>
      cases h
      simp only [Holds, heq, Test.containing_accepts_iff]
  · cases h; exact Test.amongst_accepts_iff
  · cases h; exact Test.sharing_accepts_iff
  · cases h; exact Test.date_accepts_iff
  · cases h; exact Test.date_accepts_iff
  · cases h

namespace Scanned

/-- The condition of a criterion on a record. -/
def Holds (schema : Schema) (s : Scanned) (r : Record) : Prop :=
  ∃ kind, schema s.criterion.target = some kind ∧
    s.criterion.rules.Holds (r s.criterion.target) s.reading kind

theorem leaf?_accepts_iff {schema : Schema} {s : Scanned} {part : Logic × Atom}
    (h : s.leaf? schema = some part) (r : Record) :
    s.criterion.rules.logic = part.1 ∧ (s.Holds schema r ↔ part.2.accepts r = true) := by
  unfold leaf? at h
  split at h
  · simp only [Option.bind_eq_bind, Option.bind_eq_some_iff, Option.pure_def,
      Option.some.injEq] at h
    obtain ⟨kind, htarget, test, htest, rfl⟩ := h
    refine ⟨rfl, ?_⟩
    have hiff := Rules.test?_accepts_iff htest (r s.criterion.target)
    simp only [Holds, htarget, Option.some.injEq, exists_eq_left', Atom.accepts, hiff]
  · cases h

/-- Where no criterion stops the synthesis, each one that takes part has its leaf. -/
theorem map_leaf?_filter_contributes {schema : Schema} {options : Options} {rows : List Scanned}
    (h : ∀ s ∈ rows, ¬ s.Offends schema options) :
    (rows.filter (contributes schema)).map (leaf? schema) =
      (rows.filterMap (leaf? schema)).map some := by
  induction rows with
  | nil => rfl
  | cons s rows ih =>
    have hrest := ih fun x hx => h x (List.mem_cons_of_mem s hx)
    rw [List.filter_cons, List.filterMap_cons]
    split
    · next hcontributes =>
      obtain ⟨part, hpart⟩ :=
        Option.isSome_iff_exists.1 (isSome_leaf? (h s List.mem_cons_self) hcontributes)
      rw [List.map_cons, hpart, List.map_cons, hrest]
    · next hcontributes =>
      cases hpart : s.leaf? schema with
      | some part => exact absurd (contributes_of_leaf? hpart) hcontributes
      | none => exact hrest

end Scanned

namespace Filter

/-- The criteria that take part in the formula, in order. -/
def contributing (schema : Schema) (f : Filter) : List Scanned :=
  f.scan.filter (Scanned.contributes schema)

theorem contributing_eq_map (schema : Schema) (f : Filter) :
    f.contributing schema =
      (f.table.filter fun c => (f.scanned c).contributes schema).map f.scanned :=
  List.filter_map

theorem map_leaf?_contributing {schema : Schema} {options : Options} {f : Filter}
    (h : ∀ c ∈ f.table, ¬ (f.scanned c).Offends schema options) :
    (f.contributing schema).map (Scanned.leaf? schema) =
      (f.scan.filterMap (Scanned.leaf? schema)).map some :=
  Scanned.map_leaf?_filter_contributes (List.forall_mem_map.2 h)

/-- There is no formula exactly if no criterion takes part. -/
theorem synthesize_eq_ok_none_iff {schema : Schema} {options : Options} {f : Filter}
    {result : Option Formula} (h : f.synthesize schema options = .ok result) :
    result = none ↔ f.contributing schema = [] := by
  obtain ⟨hfree, rfl⟩ := synthesize_eq_ok_iff.1 h
  rw [Formula.ofLeaves?_eq_none_iff, ← List.map_eq_nil_iff (f := some),
    ← map_leaf?_contributing hfree, List.map_eq_nil_iff]

/-- A synthesized formula accepts what the restarts of the criteria that take part admit. -/
theorem synthesize_accepts_iff {schema : Schema} {options : Options} {f : Filter} {p : Formula}
    (h : f.synthesize schema options = .ok (some p)) (r : Record) :
    p.accepts r = true ↔
      Admits (fun s => s.criterion.rules.logic) (fun s => s.Holds schema r)
        (f.contributing schema) := by
  obtain ⟨hfree, hp⟩ := synthesize_eq_ok_iff.1 h
  have hmap := map_leaf?_contributing hfree
  rw [Formula.accepts_ofLeaves? hp.symm r]
  constructor
  · refine Admits.of_map_eq (fun part _ s _ hs => ?_) hmap.symm
    obtain ⟨hlogic, hiff⟩ := Scanned.leaf?_accepts_iff hs.symm r
    exact ⟨hlogic.symm, hiff.symm⟩
  · exact Admits.of_map_eq (fun s _ part _ hs => Scanned.leaf?_accepts_iff hs r) hmap

/-- **What a synthesized formula means.**  There is none if no criterion takes part; otherwise it
accepts a record exactly if some criterion that takes part holds of the record, is the first of
them or joined by disjunction, and is followed by no conjunction that fails. -/
theorem synthesize_meaning {schema : Schema} {options : Options} {f : Filter}
    {result : Option Formula} (h : f.synthesize schema options = .ok result) :
    (f.contributing schema = [] → result = none) ∧
      (f.contributing schema ≠ [] → ∃ p, result = some p ∧ ∀ r,
        p.accepts r = true ↔
          Admits (fun s => s.criterion.rules.logic) (fun s => s.Holds schema r)
            (f.contributing schema)) := by
  refine ⟨(synthesize_eq_ok_none_iff h).2, fun hsome => ?_⟩
  cases result with
  | none => exact absurd ((synthesize_eq_ok_none_iff h).1 rfl) hsome
  | some p => exact ⟨p, rfl, synthesize_accepts_iff h⟩

/-- The meaning of a filter with a substring, a row passed over, a list joined by disjunction and
a date joined by conjunction. -/
theorem synthesize_meaning_mixed :
    let schema := Schema.ofColumns
      [("title", .text false), ("labels", .textList false), ("due", .date .timestamp true)]
    let f := ofRows
      [(⟨"title", .text, { textMatch := .contains }⟩, .text (some "bug")),
        (⟨"ghost", .text, {}⟩, .text (some "x")),
        (⟨"labels", .textList, { logic := .or }⟩, .textList (some ["urgent", "late"])),
        (⟨"before", .optionalDate, { target := some "due", dateOp := .greaterThan }⟩,
          .date (some (Timestamp.ofSeconds 5)))] {}
    ∃ p, f.synthesize schema { optimistic := true } = .ok (some p) ∧ ∀ r,
      p.accepts r = true ↔
        Admits (fun s => s.criterion.rules.logic) (fun s => s.Holds schema r)
          (f.contributing schema) := by
  intro schema f
  have hok : ∃ result, f.synthesize schema { optimistic := true } = .ok result := ⟨_, rfl⟩
  obtain ⟨result, h⟩ := hok
  obtain ⟨p, rfl, hp⟩ := (synthesize_meaning h).2 (by decide)
  exact ⟨p, h, hp⟩

end Filter

end Criteria
