import Criteria.Proofs.Synthesis.Step

/-!
# Optimistic synthesis

A strict synthesis stops at a criterion whose target the records lack; an optimistic one passes
over it.  What an optimistic synthesis comes to is therefore what a strict one comes to on the
table without such criteria (`Filter.targeted`), formula or fault alike.

* `Step.run_optimistic`: the two runs agree on the leaves they join and on how they end.
* `Filter.synthesize_strict_of_optimistic_fault`: where the optimistic synthesis stops, the strict
  one has stopped no later.
-/

namespace Criteria

/-- Whether a criterion that is not left out aims at a field that the records lack. -/
def Criterion.isUntargeted (schema : Schema) (c : Criterion) : Bool :=
  !c.rules.skipSynthesis && (schema c.target).isNone

/-! ## One criterion -/

namespace Scanned

variable {schema : Schema} {s : Scanned} {fault : Fault}

/-- An untargeted criterion joins no leaf and stops nothing. -/
theorem step_optimistic_of_untargeted (h : s.criterion.isUntargeted schema = true) :
    s.step schema { optimistic := true } =
      .ok (.untargeted s.criterion.name s.criterion.target) := by
  simp only [Criterion.isUntargeted, Bool.and_eq_true, Bool.not_eq_true',
    Option.isNone_iff_eq_none] at h
  obtain ⟨hskip, htarget⟩ := h
  simp [step, hskip, htarget]

/-- Every other criterion takes the same step whatever the options. -/
theorem step_eq_of_targeted (h : s.criterion.isUntargeted schema = false)
    (options options' : Options) : s.step schema options = s.step schema options' := by
  cases hskip : s.criterion.rules.skipSynthesis with
  | true => simp [step, hskip]
  | false =>
    cases htarget : schema s.criterion.target with
    | none => simp [Criterion.isUntargeted, hskip, htarget] at h
    | some kind => simp [step, hskip, htarget]

theorem Offence.strict (h : s.Offence schema { optimistic := true } fault) :
    s.Offence schema { optimistic := false } fault := by
  cases h with
  | untargeted _ _ hstrict => cases hstrict
  | unpaired hskip htarget hpresent hpair => exact .unpaired hskip htarget hpresent hpair

/-- A strict synthesis stops at a criterion for the same reason as an optimistic one, or for want
of its target. -/
theorem Offence.optimistic_or_untargeted (h : s.Offence schema { optimistic := false } fault) :
    s.Offence schema { optimistic := true } fault ∨
      (s.criterion.isUntargeted schema = true ∧
        fault = .missingTarget s.criterion.name s.criterion.target) := by
  cases h with
  | untargeted hskip htarget _ =>
    exact Or.inr ⟨by simp [Criterion.isUntargeted, hskip, htarget], rfl⟩
  | unpaired hskip htarget hpresent hpair => exact Or.inl (.unpaired hskip htarget hpresent hpair)

theorem Offence.unique {options : Options} {fault' : Fault} (h : s.Offence schema options fault)
    (h' : s.Offence schema options fault') : fault = fault' := by
  have hstep := step_eq_error_iff.2 h
  rw [step_eq_error_iff.2 h'] at hstep
  exact (Except.error.inj hstep).symm

end Scanned

/-! ## A whole run -/

/-- An optimistic run ends, and joins leaves, as a strict run does that never meets the untargeted
criteria. -/
theorem Step.run_optimistic (schema : Schema) (rows : List Scanned) :
    (run schema { optimistic := true } rows).2 =
        (run schema { optimistic := false }
          (rows.filter fun s => !s.criterion.isUntargeted schema)).2 ∧
      (run schema { optimistic := true } rows).1.filterMap leaf? =
        (run schema { optimistic := false }
          (rows.filter fun s => !s.criterion.isUntargeted schema)).1.filterMap leaf? := by
  induction rows with
  | nil => exact ⟨rfl, rfl⟩
  | cons s rows ih =>
    obtain ⟨hfault, hleaves⟩ := ih
    cases h : s.criterion.isUntargeted schema with
    | true =>
      -- the step of this criterion has no leaf, and the strict run does not meet it
      rw [List.filter_cons_of_neg (by simp [h])]
      simp only [run, Scanned.step_optimistic_of_untargeted h]
      exact ⟨hfault, hleaves⟩
    | false =>
      rw [List.filter_cons_of_pos (by simp [h])]
      simp only [run, Scanned.step_eq_of_targeted h { optimistic := true } { optimistic := false }]
      cases s.step schema { optimistic := false } with
      | error fault => exact ⟨rfl, rfl⟩
      | ok step => exact ⟨hfault, by simp only [List.filterMap_cons, hleaves]⟩

/-! ## Filters -/

namespace Filter

/-- The filter without its untargeted criteria. -/
def targeted (schema : Schema) (f : Filter) : Filter :=
  { f with table := f.table.filter fun c => !c.isUntargeted schema }

theorem scan_targeted (schema : Schema) (f : Filter) :
    (f.targeted schema).scan = f.scan.filter fun s => !s.criterion.isUntargeted schema := by
  rw [scan_eq_map, scan_eq_map, List.filter_map]
  rfl

/-- What a synthesis comes to depends on how its run ends and on the leaves that it joins. -/
theorem synthesize_eq_of_run (schema : Schema) (options : Options) (f : Filter) :
    f.synthesize schema options =
      match (Step.run schema options f.scan).2 with
      | some fault => .error fault
      | none =>
        .ok (Formula.ofLeaves? ((Step.run schema options f.scan).1.filterMap Step.leaf?)) := by
  unfold synthesize
  rcases Step.run schema options f.scan with ⟨steps, _ | fault⟩ <;> rfl

variable {schema : Schema} {f : Filter} {fault : Fault}

/-- Where an optimistic synthesis stops, a strict one stops with the same fault, or has stopped
before for want of a target. -/
theorem synthesize_strict_of_optimistic_fault
    (h : f.synthesize schema { optimistic := true } = .error fault) :
    f.synthesize schema { optimistic := false } = .error fault ∨
      ∃ before c after, f.table = before ++ c :: after ∧ c.isUntargeted schema = true ∧
        f.synthesize schema { optimistic := false } = .error (.missingTarget c.name c.target) ∧
        ∃ d ∈ after, (f.scanned d).Offence schema { optimistic := true } fault := by
  obtain ⟨before, d, after, htable, hbefore, hd⟩ := synthesize_eq_error_iff.1 h
  cases hstrict : f.synthesize schema { optimistic := false } with
  | ok result =>
    have hfree := (synthesize_eq_ok_iff.1 hstrict).1 d (by simp [htable])
    exact absurd ⟨fault, hd.strict⟩ hfree
  | error fault' =>
    obtain ⟨before', c, after', htable', hbefore', hc⟩ := synthesize_eq_error_iff.1 hstrict
    -- The strict synthesis stops at `c`: at `d` itself, or at an untargeted criterion before it.
    rw [htable] at htable'
    rcases List.append_eq_append_iff.1 htable' with ⟨tail, rfl, htail⟩ | ⟨tail, rfl, htail⟩
    · rcases List.cons_eq_append_iff.1 htail with ⟨rfl, hcons⟩ | ⟨tail, rfl, -⟩
      · obtain ⟨rfl, -⟩ := List.cons.inj hcons
        exact Or.inl (by rw [hc.unique hd.strict])
      · exact absurd ⟨fault, hd.strict⟩ (hbefore' d (by simp))
    · rcases List.cons_eq_append_iff.1 htail with ⟨rfl, hcons⟩ | ⟨tail, rfl, hafter⟩
      · obtain ⟨rfl, -⟩ := List.cons.inj hcons
        exact Or.inl (by rw [hc.unique hd.strict])
      · rcases hc.optimistic_or_untargeted with hc | ⟨huntargeted, rfl⟩
        · exact absurd ⟨fault', hc⟩ (hbefore c (by simp))
        · refine Or.inr ⟨before', c, after', by simp [htable, hafter], huntargeted, rfl, d, ?_, hd⟩
          rw [hafter]
          simp

/-- **Optimistic synthesis is strict synthesis of a smaller table**, the one without untargeted
criteria.  So it succeeds where the strict synthesis does, and with the same formula; it never
lacks a target; and it fails only where the strict synthesis fails, which may then lack the target
of an earlier criterion. -/
theorem synthesize_optimistic (schema : Schema) (f : Filter) :
    f.synthesize schema { optimistic := true } =
        (f.targeted schema).synthesize schema { optimistic := false } ∧
      (∀ result, f.synthesize schema { optimistic := false } = .ok result →
        f.synthesize schema { optimistic := true } = .ok result) ∧
      (∀ field target,
        f.synthesize schema { optimistic := true } ≠ .error (.missingTarget field target)) ∧
      ∀ fault, f.synthesize schema { optimistic := true } = .error fault →
        f.synthesize schema { optimistic := false } = .error fault ∨
          ∃ before c after, f.table = before ++ c :: after ∧ c.isUntargeted schema = true ∧
            f.synthesize schema { optimistic := false } = .error (.missingTarget c.name c.target) ∧
            ∃ d ∈ after, (f.scanned d).Offence schema { optimistic := true } fault := by
  refine ⟨?_, ?_, ?_, fun fault => synthesize_strict_of_optimistic_fault⟩
  · obtain ⟨hfault, hleaves⟩ := Step.run_optimistic schema f.scan
    rw [← scan_targeted] at hfault hleaves
    rw [synthesize_eq_of_run, synthesize_eq_of_run, hfault, hleaves]
  · intro result h
    obtain ⟨hfree, hresult⟩ := synthesize_eq_ok_iff.1 h
    refine synthesize_eq_ok_iff.2 ⟨fun c hc hoffends => hfree c hc ?_, hresult⟩
    obtain ⟨fault, hoffence⟩ := hoffends
    exact ⟨fault, hoffence.strict⟩
  · intro field target h
    obtain ⟨-, c, -, -, -, hc⟩ := synthesize_eq_error_iff.1 h
    cases hc with
    | untargeted _ _ hstrict => cases hstrict

-- Past an untargeted criterion the next leaf stands first, and its logic joins it to nothing.
example :
    let schema := Schema.ofColumns [("title", .text false)]
    let f := ofRows [(⟨"ghost", .text, {}⟩, .text (some "x")),
      (⟨"title", .text, { logic := .or }⟩, .text (some "bug"))] {}
    f.synthesize schema { optimistic := true } =
      .ok (some (.leaf ⟨"title", .equalTo "bug" .sensitive⟩)) := by
  rfl

end Filter

end Criteria
