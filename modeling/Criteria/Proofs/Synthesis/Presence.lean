import Criteria.Proofs.Synthesis.Leaves
import Criteria.Proofs.Table

/-!
# Present values and leaves

Two questions can be put to a filter without a synthesis: whether some value takes part, and whether
all do.  A synthesis answers them as well, since its formula has one leaf for each criterion that
takes part (`Filter.map_field_leaves`): where no criterion is left out and none lacks its target,
those are the criteria with a present value.
-/

namespace Criteria

namespace Formula

/-- The leaves of a formula, if there is one. -/
def leavesOf (result : Option Formula) : List Atom :=
  result.elim [] leaves

theorem leavesOf_ofLeaves? (parts : List (Logic × Atom)) :
    leavesOf (ofLeaves? parts) = parts.map Prod.snd := by
  cases h : ofLeaves? parts with
  | none => rw [ofLeaves?_eq_none_iff.1 h]; rfl
  | some p => exact leaves_ofLeaves? h

end Formula

theorem Scanned.isPresent_of_contributes {schema : Schema} {s : Scanned}
    (h : s.contributes schema = true) : s.isPresent = true :=
  (Bool.and_eq_true_iff.1 h).2

namespace Filter

open Formula (leavesOf)

variable {schema : Schema} {options : Options} {f : Filter} {result : Option Formula}

/-! ## The two questions -/

theorem hasAny_iff : f.hasAny = true ↔ ∃ c ∈ f.table, (f.scanned c).isPresent = true := by
  rw [hasAny, scan_eq_map, List.any_map, List.any_eq_true]
  rfl

theorem hasAll_iff : f.hasAll = true ↔ ∀ c ∈ f.table, (f.scanned c).isPresent = true := by
  rw [hasAll, scan_eq_map, List.all_map, List.all_eq_true]
  rfl

/-- A table with rows that all have a present value has a row that has one. -/
theorem hasAny_of_hasAll (hcheck : f.table.check = .ok ()) (h : f.hasAll = true) :
    f.hasAny = true := by
  obtain ⟨c, hc⟩ := List.exists_mem_of_ne_nil _ (Table.check_eq_ok_iff.1 hcheck).1
  exact hasAny_iff.2 ⟨c, hc, hasAll_iff.1 h c hc⟩

/-! ## The leaves -/

/-- The formula has one leaf for each criterion that takes part, in the order of the table, and it
tests the criterion's target. -/
theorem map_field_leaves (h : f.synthesize schema options = .ok result) :
    (leavesOf result).map Atom.field =
      (f.table.filter fun c => (f.scanned c).contributes schema).map Criterion.target := by
  obtain ⟨hfree, rfl⟩ := synthesize_eq_ok_iff.1 h
  have hleaves := map_leaf?_contributing hfree
  rw [contributing_eq_map, List.map_map] at hleaves
  rw [Formula.leavesOf_ofLeaves?, List.map_map]
  refine map_eq_of_rows hleaves (y := some) rfl fun c hc => ?_
  obtain ⟨hc, hcontributes⟩ := List.mem_filter.1 hc
  obtain ⟨part, hpart⟩ :=
    Option.isSome_iff_exists.1 (Scanned.isSome_leaf? (hfree c hc) hcontributes)
  obtain ⟨-, kind, test, -, -, rfl⟩ := Scanned.leaf?_eq_some_iff.1 hpart
  rw [Function.comp_apply, hpart]
  rfl

/-- There is a formula exactly if some criterion takes part. -/
theorem isSome_iff_contributes (h : f.synthesize schema options = .ok result) :
    result.isSome = true ↔ ∃ c ∈ f.table, (f.scanned c).contributes schema = true := by
  rw [Option.isSome_iff_ne_none, ne_eq, synthesize_eq_ok_none_iff h, contributing_eq_map,
    List.map_eq_nil_iff, List.filter_eq_nil_iff]
  simp only [Classical.not_forall, Classical.not_not, exists_prop]

/-- Where no criterion is left out, a strict synthesis that succeeds has found every target: the
criteria that take part are those with a present value. -/
theorem contributes_eq_isPresent (h : f.synthesize schema options = .ok result)
    (hskip : ∀ c ∈ f.table, c.rules.skipSynthesis = false) (hstrict : options.optimistic = false) :
    ∀ c ∈ f.table, (f.scanned c).contributes schema = (f.scanned c).isPresent := by
  intro c hc
  have hfree := (synthesize_eq_ok_iff.1 h).1 c hc
  have htarget : schema c.target ≠ none := fun htarget =>
    hfree ⟨_, .untargeted (hskip c hc) htarget hstrict⟩
  have hskip : (f.scanned c).criterion.rules.skipSynthesis = false := hskip c hc
  have htarget : (schema (f.scanned c).criterion.target).isSome = true :=
    Option.isSome_iff_ne_none.2 htarget
  rw [Scanned.contributes, hskip, htarget, Bool.not_false, Bool.true_and, Bool.true_and]

/-- **The questions about present values agree with the synthesis.**  A synthesis that succeeds
comes to a formula with one leaf for each criterion that takes part, in the order of the table,
and the leaf tests the criterion's target; so there is a formula only if some value is present.  If
no criterion is left out and the synthesis is strict, there is a formula exactly if some value is
present, and it has a leaf for every criterion exactly if all are.  In a usable table all values
are present only if some is. -/
theorem synthesize_presence (schema : Schema) (options : Options) (f : Filter) :
    (∀ result, f.synthesize schema options = .ok result →
      (leavesOf result).map Atom.field =
          (f.table.filter fun c => (f.scanned c).contributes schema).map Criterion.target ∧
        (result.isSome = true → f.hasAny = true) ∧
        ((∀ c ∈ f.table, c.rules.skipSynthesis = false) → options.optimistic = false →
          (result.isSome = true ↔ f.hasAny = true) ∧
            ((leavesOf result).length = f.table.length ↔ f.hasAll = true))) ∧
      (f.table.check = .ok () → f.hasAll = true → f.hasAny = true) := by
  refine ⟨fun result h => ?_, hasAny_of_hasAll⟩
  have hfields := map_field_leaves h
  refine ⟨hfields, fun hsome => ?_, fun hskip hstrict => ?_⟩
  · obtain ⟨c, hc, hcontributes⟩ := (isSome_iff_contributes h).1 hsome
    exact hasAny_iff.2 ⟨c, hc, Scanned.isPresent_of_contributes hcontributes⟩
  · have hpresent := contributes_eq_isPresent h hskip hstrict
    constructor
    · rw [isSome_iff_contributes h, hasAny_iff]
      exact exists_congr fun c => and_congr_right fun hc => by rw [hpresent c hc]
    · have hlength := congrArg List.length hfields
      rw [List.length_map, List.length_map] at hlength
      rw [hlength, List.length_filter_eq_length_iff, hasAll_iff]
      exact forall₂_congr fun c hc => by rw [hpresent c hc]

/-- A date, an empty text and a list that is joined by disjunction: a formula with two leaves for
three criteria. -/
theorem synthesize_presence_empty_text :
    let schema := Schema.ofColumns [("title", .text false), ("due", .date .timestamp true)]
    let f := ofRows
      [(⟨"due", .optionalDate, {}⟩, .date (some (Timestamp.ofSeconds 5))),
        (⟨"title", .text, {}⟩, .text (some "")),
        (⟨"words", .textList, { target := some "title", logic := .or }⟩,
          .textList (some ["a", "b"]))] {}
    ∃ p, f.synthesize schema {} = .ok (some p) ∧ p.leaves.map Atom.field = ["due", "title"] ∧
      f.hasAny = true ∧ f.hasAll = false := by
  intro schema f
  have hp : ∃ p, f.synthesize schema {} = .ok (some p) := ⟨_, rfl⟩
  obtain ⟨p, hp⟩ := hp
  obtain ⟨hfields, hany, hstrict⟩ := (synthesize_presence schema {} f).1 (some p) hp
  have hfields : p.leaves.map Atom.field = ["due", "title"] := hfields
  refine ⟨p, hp, hfields, hany rfl, Bool.eq_false_iff.2 fun hall => ?_⟩
  have hlength : p.leaves.length = 3 := (hstrict (by decide) rfl).2.2 hall
  rw [← List.length_map (f := Atom.field), hfields] at hlength
  exact absurd hlength (by decide)

end Filter

end Criteria
