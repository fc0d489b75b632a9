import Criteria.Synthesis

/-!
# Steps of a synthesis

What one criterion does to a synthesis, and what a whole run over the criteria comes to.

* `step_eq_error_iff`: a criterion stops the synthesis exactly by an offence of its own, either
  a target that the records lack or a value that its target cannot be compared with.
* `synthesize_eq_error_iff`: a synthesis fails with the first offence in the order of the table.
* `synthesize_eq_ok_iff`: without an offence it joins the leaves of the criteria that contribute;
  the options no longer matter then.
-/

namespace Criteria

/-! ## Values and kinds -/

namespace Reading

/-- Whether a value of the reading's shape can be compared with a field of a kind. -/
def pairsWith : Reading → Kind → Bool
  | text _, .text => true
  | textList _, .text => true
  | textList _, .textList => true
  | date _, .date => true
  | date _, .optionalDate => true
  | _, _ => false

end Reading

/-- A value that takes part has a test against a kind exactly if the two can be compared. -/
theorem Rules.isSome_test? (rules : Rules) {reading : Reading} {ignoreIfEmpty : Bool}
    (h : reading.isPresent ignoreIfEmpty = true) (kind : Kind) :
    (rules.test? reading kind).isSome = reading.pairsWith kind := by
  cases reading with
  | text value =>
    cases value with
    | none => cases h
    | some s =>
      cases kind
      case text => simp only [test?, Reading.pairsWith]; split <;> rfl
      all_goals rfl
  | textList value =>
    cases value with
    | none => cases h
    | some l => cases kind <;> rfl
  | date value =>
    cases value with
    | none => cases h
    | some t => cases kind <;> rfl
  | unreadable => cases h

/-! ## One criterion -/

namespace Scanned

variable {schema : Schema} {options : Options} {s : Scanned} {fault : Fault}

/-- The fault that a criterion stops a synthesis with. -/
inductive Offence (schema : Schema) (options : Options) (s : Scanned) : Fault → Prop
  /-- The records lack the target, present or not, and this is not passed over. -/
  | untargeted (hskip : s.criterion.rules.skipSynthesis = false)
      (htarget : schema s.criterion.target = none) (hstrict : options.optimistic = false) :
      Offence schema options s (.missingTarget s.criterion.name s.criterion.target)
  /-- The value takes part but cannot be compared with the target. -/
  | unpaired {kind : Kind} (hskip : s.criterion.rules.skipSynthesis = false)
      (htarget : schema s.criterion.target = some kind) (hpresent : s.isPresent = true)
      (hpair : s.reading.pairsWith kind = false) :
      Offence schema options s
        (.unsupportedPairing s.criterion.name s.criterion.kind s.criterion.target kind)

/-- Whether a criterion stops a synthesis. -/
def Offends (schema : Schema) (options : Options) (s : Scanned) : Prop :=
  ∃ fault, s.Offence schema options fault

/-- Whether a criterion takes part in the formula: it is not left out, its target is a field of
the records, and its value is present. -/
def contributes (schema : Schema) (s : Scanned) : Bool :=
  !s.criterion.rules.skipSynthesis && (schema s.criterion.target).isSome && s.isPresent

/-- The leaf of a criterion that takes part, with the logic that joins it; there is none if the
value cannot be compared with the target. -/
def leaf? (schema : Schema) (s : Scanned) : Option (Logic × Atom) :=
  if s.contributes schema then do
    let kind ← schema s.criterion.target
    let test ← s.criterion.rules.test? s.reading kind
    return (s.criterion.rules.logic, ⟨s.criterion.target, test⟩)
  else none

theorem step_eq_error_iff :
    s.step schema options = .error fault ↔ s.Offence schema options fault := by
  constructor
  · intro h
    simp only [step] at h
    split at h
    · cases h
    · next hskip =>
      have hskip : s.criterion.rules.skipSynthesis = false := by simpa using hskip
      split at h
      · next htarget =>
        split at h
        · cases h
        · next hstrict =>
          cases h
          exact .untargeted hskip htarget (by simpa using hstrict)
      · next kind htarget =>
        split at h
        · cases h
        · next hpresent =>
          have hpresent : s.isPresent = true := by simpa using hpresent
          split at h
          · cases h
          · next hnone =>
            cases h
            have hsome := s.criterion.rules.isSome_test? hpresent kind
            rw [hnone] at hsome
            exact .unpaired hskip htarget hpresent hsome.symm
  · intro h
    cases h with
    | untargeted hskip htarget hstrict => simp [step, hskip, htarget, hstrict]
    | @unpaired kind hskip htarget hpresent hpair =>
      have hsome := s.criterion.rules.isSome_test? hpresent kind
      rw [hpair, Option.isSome_eq_false_iff, Option.isNone_iff_eq_none] at hsome
      simp [step, hskip, htarget, hpresent, hsome]

instance : Decidable (s.Offends schema options) :=
  match h : s.step schema options with
  | .error fault => .isTrue ⟨fault, step_eq_error_iff.1 h⟩
  | .ok _ => .isFalse fun ⟨_, hoffence⟩ => by
    rw [step_eq_error_iff.2 hoffence] at h
    cases h

theorem leaf?_of_not_contributes (h : s.contributes schema = false) : s.leaf? schema = none := by
  unfold leaf?
  rw [h]
  rfl

/-- Everything that a step without a fault can be. -/
theorem step_eq_ok_cases {step : Step} (h : s.step schema options = .ok step) :
    (s.contributes schema = true ∧ ∃ atom,
        s.leaf? schema = some (s.criterion.rules.logic, atom) ∧
        step = .fold s.criterion.name s.criterion.rules.logic atom) ∨
      (s.criterion.rules.skipSynthesis = false ∧ schema s.criterion.target = none ∧
        options.optimistic = true ∧ step = .untargeted s.criterion.name s.criterion.target) ∨
      (s.contributes schema = false ∧
        (s.criterion.rules.skipSynthesis = true ∨ (schema s.criterion.target).isSome = true) ∧
        step = .absent) := by
  simp only [Scanned.step] at h
  split at h
  · next hskip =>
    cases h
    exact .inr (.inr ⟨by simp [contributes, hskip], .inl hskip, rfl⟩)
  · next hskip =>
    have hskip : s.criterion.rules.skipSynthesis = false := by simpa using hskip
    split at h
    · next htarget =>
      split at h
      · next hoptimistic =>
        cases h
        exact .inr (.inl ⟨hskip, htarget, hoptimistic, rfl⟩)
      · cases h
    · next kind htarget =>
      split at h
      · next habsent =>
        cases h
        have habsent : s.isPresent = false := by simpa using habsent
        exact .inr (.inr ⟨by simp [contributes, habsent], .inr (by simp [htarget]), rfl⟩)
      · next hpresent =>
        have hpresent : s.isPresent = true := by simpa using hpresent
        have hcontributes : s.contributes schema = true := by
          simp [contributes, hskip, htarget, hpresent]
        split at h
        · next test htest =>
          cases h
          exact .inl ⟨hcontributes, _, by simp [leaf?, hcontributes, htarget, htest], rfl⟩
        · cases h

/-- A step without an offence joins the criterion's leaf, whatever the options. -/
theorem leaf?_of_step {step : Step} (h : s.step schema options = .ok step) :
    step.leaf? = s.leaf? schema := by
  rcases step_eq_ok_cases h with ⟨-, atom, hleaf, rfl⟩ | ⟨-, htarget, -, rfl⟩ |
    ⟨hcontributes, -, rfl⟩
  · exact hleaf.symm
  · have hcontributes : s.contributes schema = false := by simp [contributes, htarget]
    exact (leaf?_of_not_contributes hcontributes).symm
  · exact (leaf?_of_not_contributes hcontributes).symm

theorem step_eq_ok_of_not_offends (h : ¬ s.Offends schema options) :
    ∃ step, s.step schema options = .ok step := by
  cases hstep : s.step schema options with
  | error fault => exact absurd ⟨fault, step_eq_error_iff.1 hstep⟩ h
  | ok step => exact ⟨step, rfl⟩

/-- A criterion that takes part without an offence has a leaf. -/
theorem isSome_leaf? (hoffence : ¬ s.Offends schema options)
    (h : s.contributes schema = true) : (s.leaf? schema).isSome := by
  have hparts := h
  simp only [contributes, Bool.and_eq_true, Bool.not_eq_true', Option.isSome_iff_exists] at hparts
  obtain ⟨⟨hskip, kind, htarget⟩, hpresent⟩ := hparts
  cases htest : s.criterion.rules.test? s.reading kind with
  | some test => simp [leaf?, h, htarget, htest]
  | none =>
    have hsome := s.criterion.rules.isSome_test? hpresent kind
    rw [htest] at hsome
    exact absurd ⟨_, .unpaired hskip htarget hpresent hsome.symm⟩ hoffence

/-- Only a criterion that takes part has a leaf. -/
theorem contributes_of_leaf? {part : Logic × Atom} (h : s.leaf? schema = some part) :
    s.contributes schema = true := by
  unfold leaf? at h
  split at h
  · assumption
  · cases h

end Scanned

/-! ## A whole run -/

namespace Step

variable {schema : Schema} {options : Options} {fault : Fault}

/-- A run stops at the first criterion with an offence, and with that offence. -/
theorem run_fault_eq_some_iff {rows : List Scanned} :
    (run schema options rows).2 = some fault ↔
      ∃ before s after, rows = before ++ s :: after ∧
        (∀ x ∈ before, ¬ x.Offends schema options) ∧ s.Offence schema options fault := by
  induction rows with
  | nil => simp [run]
  | cons y rows ih =>
    cases hy : y.step schema options with
    | error e =>
      have hoffence := Scanned.step_eq_error_iff.1 hy
      simp only [run, hy, Option.some.injEq]
      constructor
      · rintro rfl
        exact ⟨[], y, rows, rfl, by simp, hoffence⟩
      · rintro ⟨before, s, after, hrows, hbefore, hs⟩
        rcases List.cons_eq_append_iff.1 hrows with ⟨rfl, hcons⟩ | ⟨tail, rfl, -⟩
        · cases hcons
          rw [Scanned.step_eq_error_iff.2 hs] at hy
          exact (Except.error.inj hy).symm
        · exact absurd ⟨e, hoffence⟩ (hbefore y List.mem_cons_self)
    | ok step =>
      have hfree : ¬ y.Offends schema options := by
        rintro ⟨e, he⟩
        rw [Scanned.step_eq_error_iff.2 he] at hy
        cases hy
      simp only [run, hy, ih]
      constructor
      · rintro ⟨before, s, after, rfl, hbefore, hs⟩
        refine ⟨y :: before, s, after, rfl, fun x hx => ?_, hs⟩
        rcases List.mem_cons.1 hx with rfl | hx
        · exact hfree
        · exact hbefore x hx
      · rintro ⟨before, s, after, hrows, hbefore, hs⟩
        rcases List.cons_eq_append_iff.1 hrows with ⟨rfl, hcons⟩ | ⟨tail, rfl, hrest⟩
        · cases hcons
          exact absurd ⟨fault, hs⟩ hfree
        · exact ⟨tail, s, after, hrest, fun x hx => hbefore x (List.mem_cons_of_mem y hx), hs⟩

/-- Among criteria one of which has an offence there is a first one that has. -/
theorem exists_first_offence {rows : List Scanned} (h : ∃ s ∈ rows, s.Offends schema options) :
    ∃ before s after, rows = before ++ s :: after ∧
      (∀ x ∈ before, ¬ x.Offends schema options) ∧ s.Offends schema options := by
  induction rows with
  | nil => simp at h
  | cons y rows ih =>
    by_cases hy : y.Offends schema options
    · exact ⟨[], y, rows, rfl, by simp, hy⟩
    · obtain ⟨s, hs, hoffends⟩ := h
      have hmem : s ∈ rows := by
        rcases List.mem_cons.1 hs with rfl | hs
        · exact absurd hoffends hy
        · exact hs
      obtain ⟨before, t, after, rfl, hbefore, ht⟩ := ih ⟨s, hmem, hoffends⟩
      refine ⟨y :: before, t, after, rfl, fun x hx => ?_, ht⟩
      rcases List.mem_cons.1 hx with rfl | hx
      · exact hy
      · exact hbefore x hx

theorem run_fault_eq_none_iff {rows : List Scanned} :
    (run schema options rows).2 = none ↔ ∀ s ∈ rows, ¬ s.Offends schema options := by
  constructor
  · intro h s hs hoffends
    obtain ⟨before, t, after, hrows, hbefore, fault, ht⟩ := exists_first_offence ⟨s, hs, hoffends⟩
    rw [run_fault_eq_some_iff.2 ⟨before, t, after, hrows, hbefore, ht⟩] at h
    cases h
  · intro h
    cases hrun : (run schema options rows).2 with
    | none => rfl
    | some fault =>
      obtain ⟨before, t, after, rfl, -, ht⟩ := run_fault_eq_some_iff.1 hrun
      exact absurd ⟨fault, ht⟩ (h t (by simp))

/-- A run without an offence joins the leaves of all criteria that have one. -/
theorem leaves_run {rows : List Scanned} (h : ∀ s ∈ rows, ¬ s.Offends schema options) :
    (run schema options rows).1.filterMap leaf? = rows.filterMap (Scanned.leaf? schema) := by
  induction rows with
  | nil => rfl
  | cons y rows ih =>
    obtain ⟨step, hstep⟩ := Scanned.step_eq_ok_of_not_offends (h y List.mem_cons_self)
    have hrest := ih fun s hs => h s (List.mem_cons_of_mem y hs)
    simp only [run, hstep, List.filterMap_cons, Scanned.leaf?_of_step hstep, hrest]

end Step

namespace Filter

variable {schema : Schema} {options : Options} {f : Filter}

/-- A criterion with what the filter holds for it. -/
def scanned (f : Filter) (c : Criterion) : Scanned :=
  ⟨c, f.read c.name⟩

theorem scan_eq_map (f : Filter) : f.scan = f.table.map f.scanned := rfl

/-- A synthesis fails with the offence of the first criterion of the table that has one. -/
theorem synthesize_eq_error_iff {fault : Fault} :
    f.synthesize schema options = .error fault ↔
      ∃ before c after, f.table = before ++ c :: after ∧
        (∀ x ∈ before, ¬ (f.scanned x).Offends schema options) ∧
        (f.scanned c).Offence schema options fault := by
  have hrun : f.synthesize schema options = .error fault ↔
      (Step.run schema options f.scan).2 = some fault := by
    unfold synthesize
    rcases Step.run schema options f.scan with ⟨steps, _ | e⟩ <;> simp
  rw [hrun, Step.run_fault_eq_some_iff, scan_eq_map]
  constructor
  · rintro ⟨before, s, after, hscan, hbefore, hs⟩
    obtain ⟨before, rest, htable, rfl, hrest⟩ := List.map_eq_append_iff.1 hscan
    obtain ⟨c, after, rfl, rfl, rfl⟩ := List.map_eq_cons_iff.1 hrest
    exact ⟨before, c, after, htable, fun x hx => hbefore _ (List.mem_map_of_mem hx), hs⟩
  · rintro ⟨before, c, after, htable, hbefore, hc⟩
    refine ⟨before.map f.scanned, f.scanned c, after.map f.scanned, ?_, ?_, hc⟩
    · rw [htable, List.map_append, List.map_cons]
    · intro s hs
      obtain ⟨x, hx, rfl⟩ := List.mem_map.1 hs
      exact hbefore x hx

/-- Where the criteria of two tables have offences alike, row by row, both syntheses stop at the
same row. -/
theorem exists_synthesize_eq_error {g : Filter} {R : Fault → Fault → Prop}
    (rows : List (Criterion × Criterion)) (hf : f.table = rows.map Prod.fst)
    (hg : g.table = rows.map Prod.snd)
    (hfree : ∀ row ∈ rows, ¬ (f.scanned row.1).Offends schema options →
      ¬ (g.scanned row.2).Offends schema options)
    (hoffence : ∀ row ∈ rows, ∀ fault, (f.scanned row.1).Offence schema options fault →
      ∃ fault', (g.scanned row.2).Offence schema options fault' ∧ R fault fault')
    {fault : Fault} (h : f.synthesize schema options = .error fault) :
    ∃ fault', g.synthesize schema options = .error fault' ∧ R fault fault' := by
  obtain ⟨before, c, after, htable, hbefore, hc⟩ := synthesize_eq_error_iff.1 h
  obtain ⟨left, rest, rfl, rfl, hrest⟩ := List.map_eq_append_iff.1 (hf ▸ htable)
  obtain ⟨row, right, rfl, rfl, rfl⟩ := List.map_eq_cons_iff.1 hrest
  obtain ⟨fault', hd, hrelated⟩ :=
    hoffence row (List.mem_append_right left List.mem_cons_self) fault hc
  refine ⟨fault', synthesize_eq_error_iff.2 ⟨left.map Prod.snd, row.2, right.map Prod.snd, ?_, ?_,
    hd⟩, hrelated⟩
  · rw [hg, List.map_append, List.map_cons]
  · rw [List.forall_mem_map]
    exact fun earlier hearlier => hfree earlier (List.mem_append_left _ hearlier)
      (hbefore earlier.1 (List.mem_map_of_mem hearlier))

/-- Without an offence a synthesis joins the leaves of the criteria, whatever the options. -/
theorem synthesize_eq_ok_iff {result : Option Formula} :
    f.synthesize schema options = .ok result ↔
      (∀ c ∈ f.table, ¬ (f.scanned c).Offends schema options) ∧
        result = Formula.ofLeaves? (f.scan.filterMap (Scanned.leaf? schema)) := by
  have hrows : (∀ c ∈ f.table, ¬ (f.scanned c).Offends schema options) ↔
      ∀ s ∈ f.scan, ¬ s.Offends schema options := by
    rw [scan_eq_map, List.forall_mem_map]
  rw [hrows]
  unfold synthesize
  have hnone := @Step.run_fault_eq_none_iff schema options f.scan
  have hleaves := @Step.leaves_run schema options f.scan
  rcases hrun : Step.run schema options f.scan with ⟨steps, _ | e⟩
  · rw [hrun] at hnone hleaves
    have hfree := hnone.1 rfl
    simp only [Except.ok.injEq, hleaves hfree]
    exact ⟨fun h => ⟨hfree, h.symm⟩, fun h => h.2.symm⟩
  · rw [hrun] at hnone
    simp only [reduceCtorEq, false_iff]
    rintro ⟨hfree, -⟩
    cases hnone.2 hfree

end Filter

end Criteria
