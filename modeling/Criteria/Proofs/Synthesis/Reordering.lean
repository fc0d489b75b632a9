import Criteria.Proofs.Synthesis.Leaves

/-!
# Criteria in another order

The leaves are joined from the left, so in general the order of the criteria matters.  It does not
inside a block of neighbours joined by one connective, wherever the block stands: for one record,
what has been joined is a truth value or nothing yet, and two leaves of one connective change
either of the two in the same way in both orders (`Formula.extendVerdict_comm`).  So a table with
such a block rearranged fails where the table does, though perhaps with another fault, and comes to
a formula that accepts the same records (`Filter.synthesize_reorder`).
-/

namespace Criteria

/-! ## One record -/

/-- What a connective makes of two truth values. -/
def Logic.combine : Logic → Bool → Bool → Bool
  | and, a, b => a && b
  | or, a, b => a || b

namespace Logic

theorem combine_comm (logic : Logic) (a b : Bool) : logic.combine a b = logic.combine b a := by
  cases logic with
  | and => exact Bool.and_comm a b
  | or => exact Bool.or_comm a b

theorem combine_right_comm (logic : Logic) (a b c : Bool) :
    logic.combine (logic.combine a b) c = logic.combine (logic.combine a c) b := by
  cases logic with
  | and => exact Bool.and_right_comm a b c
  | or => exact Bool.or_right_comm a b c

end Logic

namespace Formula

/-- What one more leaf makes of what the leaves so far say of a record. -/
def extendVerdict (r : Record) : Option Bool → Logic × Atom → Option Bool
  | none, part => some (part.2.accepts r)
  | some b, part => some (part.1.combine b (part.2.accepts r))

variable {r : Record}

theorem map_accepts_extend (sofar : Option Formula) (part : Logic × Atom) :
    (extend sofar part).map (fun p => p.accepts r) =
      extendVerdict r (sofar.map fun p => p.accepts r) part := by
  obtain ⟨logic, a⟩ := part
  cases sofar with
  | none => rfl
  | some p => cases logic <;> rfl

theorem map_accepts_ofLeaves? (parts : List (Logic × Atom)) :
    (ofLeaves? parts).map (fun p => p.accepts r) = parts.foldl (extendVerdict r) none :=
  (List.foldl_hom _ fun sofar part => (map_accepts_extend sofar part).symm).symm

/-- Two leaves of one connective may come in either order, also if they are the first. -/
theorem extendVerdict_comm {part part' : Logic × Atom} (h : part.1 = part'.1) (v : Option Bool) :
    extendVerdict r (extendVerdict r v part) part' =
      extendVerdict r (extendVerdict r v part') part := by
  cases v with
  | none => simp only [extendVerdict, h, Logic.combine_comm]
  | some b => simp only [extendVerdict, h, Logic.combine_right_comm]

/-- A block of leaves of one connective says the same of a record in every order. -/
theorem map_accepts_ofLeaves?_perm {before block block' after : List (Logic × Atom)}
    {logic : Logic} (hperm : block.Perm block') (hlogic : ∀ part ∈ block, part.1 = logic) :
    (ofLeaves? (before ++ block ++ after)).map (fun p => p.accepts r) =
      (ofLeaves? (before ++ block' ++ after)).map fun p => p.accepts r := by
  have hblock : ∀ v, block.foldl (extendVerdict r) v = block'.foldl (extendVerdict r) v := by
    intro v
    refine hperm.foldl_eq' (fun part hpart part' hpart' w => ?_) v
    exact extendVerdict_comm ((hlogic part hpart).trans (hlogic part' hpart').symm) w
  simp only [map_accepts_ofLeaves?, List.foldl_append, hblock]

end Formula

/-! ## Outcomes -/

/-- Two outcomes of a synthesis that agree but for the fault, if there is one: both faults, no
formula, or formulas that accept the same records. -/
inductive SameButFault : Except Fault (Option Formula) → Except Fault (Option Formula) → Prop
  | fault (fault other : Fault) : SameButFault (.error fault) (.error other)
  | nothing : SameButFault (.ok none) (.ok none)
  | formula {p q : Formula} (h : ∀ r, p.accepts r = q.accepts r) :
      SameButFault (.ok (some p)) (.ok (some q))

theorem SameButFault.of_map_accepts {x y : Option Formula}
    (h : ∀ r : Record, x.map (fun p => p.accepts r) = y.map fun p => p.accepts r) :
    SameButFault (.ok x) (.ok y) := by
  cases x with
  | none =>
    cases y with
    | none => exact .nothing
    | some q => cases h fun _ => .none
  | some p =>
    cases y with
    | none => cases h fun _ => .none
    | some q => exact .formula fun r => Option.some.inj (h r)

namespace Filter

variable {schema : Schema} {options : Options} {f g : Filter}

/-- What a synthesis comes to depends on whether there is an offence and on what the leaves say of
each record. -/
theorem sameButFault_of_leaves
    (hoffends : (∀ c ∈ f.table, ¬ (f.scanned c).Offends schema options) ↔
      ∀ c ∈ g.table, ¬ (g.scanned c).Offends schema options)
    (hleaves : ∀ r : Record,
      (Formula.ofLeaves? (f.scan.filterMap (Scanned.leaf? schema))).map (fun p => p.accepts r) =
        (Formula.ofLeaves? (g.scan.filterMap (Scanned.leaf? schema))).map fun p => p.accepts r) :
    SameButFault (f.synthesize schema options) (g.synthesize schema options) := by
  by_cases hfree : ∀ c ∈ f.table, ¬ (f.scanned c).Offends schema options
  · rw [synthesize_eq_ok_iff.2 ⟨hfree, rfl⟩, synthesize_eq_ok_iff.2 ⟨hoffends.1 hfree, rfl⟩]
    exact .of_map_accepts hleaves
  · cases hf : f.synthesize schema options with
    | ok result => exact absurd (synthesize_eq_ok_iff.1 hf).1 hfree
    | error fault =>
      cases hg : g.synthesize schema options with
      | ok result => exact absurd (hoffends.2 (synthesize_eq_ok_iff.1 hg).1) hfree
      | error other => exact .fault fault other

/-- **The order inside a block of one logic does not matter.**  Two filters with the same values,
whose tables differ in the order of neighbouring criteria that are all joined by conjunction, or
all by disjunction, fail both, come both to no formula, or come to formulas that accept the same
records.  With nothing before and after the block, that is the order of a whole table of one
logic. -/
theorem synthesize_reorder {before block block' after : List Criterion} {logic : Logic}
    (hf : f.table = before ++ block ++ after) (hg : g.table = before ++ block' ++ after)
    (hread : ∀ c ∈ f.table, g.read c.name = f.read c.name) (hperm : block.Perm block')
    (hlogic : ∀ c ∈ block, c.rules.logic = logic) (schema : Schema) (options : Options) :
    SameButFault (f.synthesize schema options) (g.synthesize schema options) := by
  have hmem : ∀ c, c ∈ g.table ↔ c ∈ f.table := by
    intro c
    rw [hf, hg]
    simp only [List.mem_append, hperm.mem_iff]
  have hscanned : ∀ c ∈ g.table, g.scanned c = f.scanned c := by
    intro c hc
    unfold scanned
    rw [hread c ((hmem c).1 hc)]
  refine sameButFault_of_leaves ?_ fun r => ?_
  · constructor
    · intro hfree c hc
      rw [hscanned c hc]
      exact hfree c ((hmem c).1 hc)
    · intro hfree c hc
      rw [← hscanned c ((hmem c).2 hc)]
      exact hfree c ((hmem c).2 hc)
  · have hscan : g.scan = g.table.map f.scanned := List.map_congr_left hscanned
    rw [hscan, scan_eq_map, List.filterMap_map, List.filterMap_map, hf, hg]
    simp only [List.filterMap_append]
    apply Formula.map_accepts_ofLeaves?_perm (hperm.filterMap _)
    intro part hpart
    obtain ⟨c, hc, hleaf⟩ := List.mem_filterMap.1 hpart
    exact (Scanned.logic_of_leaf? hleaf).trans (hlogic c hc)

/-- Two disjunctions exchanged around one that is absent: another formula of the same meaning. -/
theorem synthesize_reorder_disjunctions :
    let schema := Schema.ofColumns
      [("title", .text false), ("labels", .textList false), ("due", .date .timestamp true)]
    let labels : Criterion := ⟨"labels", .textList, { logic := .or }⟩
    let owner : Criterion := ⟨"owner", .text, { target := some "title", logic := .or }⟩
    let words : Criterion := ⟨"words", .textList, { target := some "title", logic := .or }⟩
    let due : Criterion := ⟨"due", .optionalDate, {}⟩
    let title : Criterion := ⟨"title", .text, {}⟩
    let f := ofRows
      [(title, .text (some "bug")), (labels, .textList (some ["urgent"])), (owner, .text none),
        (words, .textList (some ["a", "b"])), (due, .date (some (Timestamp.ofSeconds 5)))] {}
    let g : Filter := { f with table := [title, words, owner, labels, due] }
    ∃ p q, f.synthesize schema {} = .ok (some p) ∧ g.synthesize schema {} = .ok (some q) ∧
      p ≠ q ∧ ∀ r, p.accepts r = q.accepts r := by
  intro schema labels owner words due title f g
  have hf : f.table = [title] ++ [labels, owner, words] ++ [due] := rfl
  have hg : g.table = [title] ++ [words, owner, labels] ++ [due] := rfl
  have hperm : [labels, owner, words].Perm [words, owner, labels] := by decide
  have hor : ∀ c ∈ [labels, owner, words], c.rules.logic = .or := by decide
  have hsame := synthesize_reorder hf hg (fun _ _ => rfl) hperm hor schema {}
  have hp : ∃ p, f.synthesize schema {} = .ok (some p) := ⟨_, rfl⟩
  have hq : ∃ q, g.synthesize schema {} = .ok (some q) := ⟨_, rfl⟩
  obtain ⟨p, hp⟩ := hp
  obtain ⟨q, hq⟩ := hq
  have hne : f.synthesize schema {} ≠ g.synthesize schema {} := by decide
  rw [hp, hq] at hsame hne
  cases hsame with
  | formula h => exact ⟨p, q, hp, hq, fun hpq => hne (by rw [hpq]), h⟩

end Filter

end Criteria
