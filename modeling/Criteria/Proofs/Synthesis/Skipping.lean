import Criteria.Proofs.Synthesis.Leaves

/-!
# Synthesis in two parts

Criteria at the end of a table can be left out of a synthesis and joined by hand: the synthesis
without them succeeds, and joining their leaves to what it gives, each by the logic of its own
criterion, gives the formula of the whole table (`Filter.synthesize_skippingFrom`).  If the others
give no formula, the first of the leaves stands alone.

A criterion that is left out has no leaf and no offence, so the run over the shorter table is the
first part of the run over the whole one, and the fold of the leaves is cut where the table is
(`Formula.ofLeaves?_append`).
-/

namespace Criteria

namespace Formula

/-! ## Joining by hand -/

/-- Joins leaves to a formula, one after the other. -/
def joinLeaves (f : Formula) (parts : List (Logic × Atom)) : Formula :=
  parts.foldl (fun sofar part => join part.1 sofar (leaf part.2)) f

theorem joinLeaves_cons (f : Formula) (part : Logic × Atom) (parts : List (Logic × Atom)) :
    f.joinLeaves (part :: parts) = (join part.1 f (leaf part.2)).joinLeaves parts := rfl

theorem foldl_extend_some (f : Formula) (parts : List (Logic × Atom)) :
    parts.foldl extend (some f) = some (f.joinLeaves parts) := by
  induction parts generalizing f with
  | nil => rfl
  | cons part parts ih => exact ih (join part.1 f (leaf part.2))

/-- The first leaf stands alone, whatever its logic. -/
theorem ofLeaves?_cons (part : Logic × Atom) (parts : List (Logic × Atom)) :
    ofLeaves? (part :: parts) = some ((leaf part.2).joinLeaves parts) := by
  rw [ofLeaves?, List.foldl_cons, extend, foldl_extend_some]

theorem ofLeaves?_append (before after : List (Logic × Atom)) :
    ofLeaves? (before ++ after) = after.foldl extend (ofLeaves? before) := by
  simp only [ofLeaves?, List.foldl_append]

/-- Leaves that come to a formula after others were joined by hand: to what the others came to, or
from the first of them on. -/
theorem ofLeaves?_append_eq_some {before after : List (Logic × Atom)} {p : Formula}
    (h : ofLeaves? (before ++ after) = some p) :
    (∃ q, ofLeaves? before = some q ∧ q.joinLeaves after = p) ∨
      (ofLeaves? before = none ∧
        ∃ first rest, after = first :: rest ∧ (leaf first.2).joinLeaves rest = p) := by
  rw [ofLeaves?_append] at h
  cases hbefore : ofLeaves? before with
  | some q =>
    rw [hbefore, foldl_extend_some] at h
    exact .inl ⟨q, rfl, Option.some.inj h⟩
  | none =>
    rw [hbefore] at h
    cases after with
    | nil => cases h
    | cons first rest =>
      have hfirst := ofLeaves?_cons first rest
      exact .inr ⟨rfl, first, rest, rfl, Option.some.inj (hfirst.symm.trans h)⟩

end Formula

/-! ## Criteria left out -/

/-- The criterion, left out of the formula. -/
def Criterion.skipped (c : Criterion) : Criterion :=
  { c with rules := { c.rules with skipSynthesis := true } }

namespace Scanned

variable {schema : Schema} {s : Scanned}

theorem contributes_of_skip (h : s.criterion.rules.skipSynthesis = true) :
    s.contributes schema = false := by
  simp [contributes, h]

theorem not_offends_of_skip {options : Options} (h : s.criterion.rules.skipSynthesis = true) :
    ¬ s.Offends schema options := by
  rintro ⟨fault, hoffence⟩
  cases hoffence with
  | untargeted hskip _ _ => exact absurd (h.symm.trans hskip) (by decide)
  | unpaired hskip _ _ _ => exact absurd (h.symm.trans hskip) (by decide)

end Scanned

namespace Filter

variable {schema : Schema} {options : Options} {f : Filter} {p : Formula}

/-- The filter with its criteria from one on left out. -/
def skippingFrom (n : Nat) (f : Filter) : Filter :=
  { f with table := f.table.take n ++ (f.table.drop n).map Criterion.skipped }

theorem scan_skippingFrom (n : Nat) (f : Filter) :
    (f.skippingFrom n).scan = (f.table.take n).map f.scanned ++
      (f.table.drop n).map fun c => ⟨c.skipped, f.read c.name⟩ := by
  rw [scan_eq_map, skippingFrom, List.map_append, List.map_map]
  rfl

/-- The leaves that are left are those of the criteria before. -/
theorem filterMap_leaf?_skippingFrom (n : Nat) (f : Filter) :
    (f.skippingFrom n).scan.filterMap (Scanned.leaf? schema) =
      ((f.table.take n).map f.scanned).filterMap (Scanned.leaf? schema) := by
  have hrest : ((f.table.drop n).map fun c => (⟨c.skipped, f.read c.name⟩ : Scanned)).filterMap
      (Scanned.leaf? schema) = [] := by
    rw [List.filterMap_eq_nil_iff]
    intro s hs
    obtain ⟨c, -, rfl⟩ := List.mem_map.1 hs
    exact Scanned.leaf?_of_not_contributes (Scanned.contributes_of_skip rfl)
  rw [scan_skippingFrom, List.filterMap_append, hrest, List.append_nil]

/-- Leaving criteria out adds no offence. -/
theorem not_offends_skippingFrom (n : Nat)
    (h : ∀ c ∈ f.table, ¬ (f.scanned c).Offends schema options) :
    ∀ c ∈ (f.skippingFrom n).table, ¬ ((f.skippingFrom n).scanned c).Offends schema options := by
  intro c hc
  rcases List.mem_append.1 hc with hc | hc
  · exact h c (List.mem_of_mem_take hc)
  · obtain ⟨d, -, rfl⟩ := List.mem_map.1 hc
    exact Scanned.not_offends_of_skip rfl

/-- A criterion that takes part is synthesized by itself to its leaf. -/
theorem synthesize_alone {c : Criterion} {part : Logic × Atom}
    (h : ¬ (f.scanned c).Offends schema options) (hpart : (f.scanned c).leaf? schema = some part) :
    ({ f with table := [c] } : Filter).synthesize schema options = .ok (some (.leaf part.2)) := by
  refine synthesize_eq_ok_iff.2 ⟨fun d hd => ?_, ?_⟩
  · rw [List.mem_singleton.1 hd]
    exact h
  · have hscan : ({ f with table := [c] } : Filter).scan = [f.scanned c] := rfl
    rw [hscan, List.filterMap_cons_some hpart]
    rfl

/-- **Criteria left out can be joined by hand.**  Where a filter is synthesized to a formula, it is
synthesized without its criteria from any one on, and joining the leaves of those that take part to
what comes out gives the formula; if nothing comes out, the first of the leaves stands alone.  Each
leaf is what its criterion is synthesized to by itself. -/
theorem synthesize_skippingFrom (h : f.synthesize schema options = .ok (some p)) (n : Nat) :
    ∃ parts,
      (((f.table.drop n).map f.scanned).filter (Scanned.contributes schema)).map
          (Scanned.leaf? schema) = parts.map some ∧
      (∀ c ∈ f.table.drop n, ∀ part, (f.scanned c).leaf? schema = some part →
        part.1 = c.rules.logic ∧
          ({ f with table := [c] } : Filter).synthesize schema options =
            .ok (some (.leaf part.2))) ∧
      ((∃ q, (f.skippingFrom n).synthesize schema options = .ok (some q) ∧
          q.joinLeaves parts = p) ∨
        ((f.skippingFrom n).synthesize schema options = .ok none ∧
          ∃ first rest, parts = first :: rest ∧
            (Formula.leaf first.2).joinLeaves rest = p)) := by
  obtain ⟨hfree, hp⟩ := synthesize_eq_ok_iff.1 h
  have hdrop : ∀ s ∈ (f.table.drop n).map f.scanned, ¬ s.Offends schema options := by
    intro s hs
    obtain ⟨c, hc, rfl⟩ := List.mem_map.1 hs
    exact hfree c (List.mem_of_mem_drop hc)
  have hok : ∀ result,
      Formula.ofLeaves? (((f.table.take n).map f.scanned).filterMap (Scanned.leaf? schema)) =
        result → (f.skippingFrom n).synthesize schema options = .ok result := by
    intro result hresult
    refine synthesize_eq_ok_iff.2 ⟨not_offends_skippingFrom n hfree, ?_⟩
    rw [filterMap_leaf?_skippingFrom, hresult]
  refine ⟨((f.table.drop n).map f.scanned).filterMap (Scanned.leaf? schema),
    Scanned.map_leaf?_filter_contributes hdrop, ?_, ?_⟩
  · intro c hc part hpart
    have halone := synthesize_alone (hfree c (List.mem_of_mem_drop hc)) hpart
    obtain ⟨-, kind, test, -, -, rfl⟩ := Scanned.leaf?_eq_some_iff.1 hpart
    exact ⟨rfl, halone⟩
  · -- the fold over all leaves is cut where the table is
    have hscan : f.scan = (f.table.take n).map f.scanned ++ (f.table.drop n).map f.scanned := by
      rw [← List.map_append, List.take_append_drop]
      rfl
    rw [hscan, List.filterMap_append] at hp
    rcases Formula.ofLeaves?_append_eq_some hp.symm with ⟨q, hq, hjoin⟩ | ⟨hnone, hleaves⟩
    · exact .inl ⟨q, hok _ hq, hjoin⟩
    · exact .inr ⟨hok _ hnone, hleaves⟩

/-- After a criterion whose value is empty the leaf of a list stands alone, whatever its logic, and
the leaf of a date is joined to it. -/
theorem synthesize_skippingFrom_first_absent :
    let schema := Schema.ofColumns
      [("title", .text false), ("labels", .textList false), ("due", .date .timestamp true)]
    let f := ofRows
      [(⟨"title", .text, {}⟩, .text (some "")),
        (⟨"labels", .textList, { logic := .or }⟩, .textList (some ["urgent"])),
        (⟨"due", .optionalDate, { dateOp := .greaterThan }⟩,
          .date (some (Timestamp.ofSeconds 5)))] {}
    let p := Formula.and (.leaf ⟨"labels", .sharing ["urgent"] .sensitive⟩)
      (.leaf ⟨"due", .date .greaterThan (Timestamp.ofSeconds 5) true⟩)
    f.synthesize schema {} = .ok (some p) ∧ (f.skippingFrom 1).synthesize schema {} = .ok none ∧
      ∃ first rest,
        (((f.table.drop 1).map f.scanned).filter (Scanned.contributes schema)).map
          (Scanned.leaf? schema) = (first :: rest).map some ∧
        (Formula.leaf first.2).joinLeaves rest = p := by
  intro schema f p
  have h : f.synthesize schema {} = .ok (some p) := rfl
  have hnone : (f.skippingFrom 1).synthesize schema {} = .ok none := rfl
  obtain ⟨parts, hparts, -, hjoin⟩ := synthesize_skippingFrom h 1
  refine ⟨h, hnone, ?_⟩
  rcases hjoin with ⟨q, hq, -⟩ | ⟨-, first, rest, rfl, hp⟩
  · rw [hnone] at hq
    cases hq
  · exact ⟨first, rest, hparts, hp⟩

end Filter

end Criteria
