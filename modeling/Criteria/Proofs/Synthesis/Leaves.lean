import Criteria.Proofs.Formula.Outline
import Criteria.Proofs.Synthesis.Meaning

/-!
# The leaves of a synthesized formula

Joining keeps the leaves in their order, so the leaves of a synthesized formula are those of the
criteria that take part, in the order of the table (`Filter.leaves_of_synthesize`).  Each comes from
a criterion whose target is a field of the records (`Filter.exists_criterion_of_mem_leaves`).
-/

namespace Criteria

/-- Lists that are found row by row agree in what the rows agree in. -/
theorem map_eq_of_rows {ι α β γ : Type} {rows : List ι} {x : ι → Option α} {y : ι → Option β}
    {xs : List α} {ys : List β} (hx : rows.map x = xs.map some) (hy : rows.map y = ys.map some)
    {read : α → γ} {read' : β → γ} (h : ∀ row ∈ rows, (x row).map read = (y row).map read') :
    xs.map read = ys.map read' := by
  apply (List.map_inj_right fun _ _ => Option.some.inj).1
  calc (xs.map read).map some = (rows.map x).map (Option.map read) := by
        rw [hx, List.map_map, List.map_map]
        rfl
    _ = (rows.map y).map (Option.map read') := by
        rw [List.map_map, List.map_map]
        exact List.map_congr_left h
    _ = (ys.map read').map some := by
        rw [hy, List.map_map, List.map_map]
        rfl

theorem Formula.leaves_ofLeaves? {parts : List (Logic × Atom)} {p : Formula}
    (h : ofLeaves? parts = some p) : p.leaves = parts.map Prod.snd := by
  induction parts using List.reverseRecOn generalizing p with
  | nil => cases h
  | append_singleton parts part ih =>
    rw [ofLeaves?_concat] at h
    cases hparts : ofLeaves? parts with
    | none =>
      rw [hparts] at h
      cases h
      rw [ofLeaves?_eq_none_iff.1 hparts]
      rfl
    | some q =>
      rw [hparts] at h
      cases h
      rw [leaves_join, ih hparts, List.map_append]
      rfl

/-- What the leaf of a criterion is made of. -/
theorem Scanned.leaf?_eq_some_iff {schema : Schema} {s : Scanned} {part : Logic × Atom} :
    s.leaf? schema = some part ↔
      s.contributes schema = true ∧ ∃ kind test, schema s.criterion.target = some kind ∧
        s.criterion.rules.test? s.reading kind = some test ∧
        part = (s.criterion.rules.logic, ⟨s.criterion.target, test⟩) := by
  unfold leaf?
  split
  · next h =>
    simp only [Option.bind_eq_bind, Option.bind_eq_some_iff, Option.pure_def, Option.some.injEq]
    constructor
    · rintro ⟨kind, htarget, test, htest, rfl⟩
      exact ⟨h, kind, test, htarget, htest, rfl⟩
    · rintro ⟨-, kind, test, htarget, htest, rfl⟩
      exact ⟨kind, htarget, test, htest, rfl⟩
  · next h =>
    exact iff_of_false (fun hnone => by cases hnone) fun hpart => h hpart.1

/-- A leaf is joined by the logic of its criterion. -/
theorem Scanned.logic_of_leaf? {schema : Schema} {s : Scanned} {part : Logic × Atom}
    (h : s.leaf? schema = some part) : part.1 = s.criterion.rules.logic := by
  obtain ⟨-, kind, test, -, -, rfl⟩ := leaf?_eq_some_iff.1 h
  rfl

namespace Filter

variable {schema : Schema} {options : Options} {f : Filter} {p : Formula}

theorem leaves_of_synthesize (h : f.synthesize schema options = .ok (some p)) :
    p.leaves = (f.scan.filterMap (Scanned.leaf? schema)).map Prod.snd :=
  Formula.leaves_ofLeaves? (synthesize_eq_ok_iff.1 h).2.symm

/-- A leaf tests the target of some criterion, which is a field of the records, by the test of the
criterion's value against the kind of that field. -/
theorem exists_criterion_of_mem_leaves (h : f.synthesize schema options = .ok (some p)) {a : Atom}
    (ha : a ∈ p.leaves) :
    ∃ c ∈ f.table, ∃ kind, schema a.field = some kind ∧ a.field = c.target ∧
      c.rules.test? (f.read c.name) kind = some a.test := by
  rw [leaves_of_synthesize h] at ha
  obtain ⟨part, hpart, rfl⟩ := List.mem_map.1 ha
  obtain ⟨s, hs, hleaf⟩ := List.mem_filterMap.1 hpart
  obtain ⟨c, hc, rfl⟩ := List.mem_map.1 (scan_eq_map f ▸ hs)
  obtain ⟨-, kind, test, htarget, htest, rfl⟩ := Scanned.leaf?_eq_some_iff.1 hleaf
  exact ⟨c, hc, kind, htarget, rfl, htest⟩

end Filter

end Criteria
