import Criteria.Proofs.Synthesis.Step

/-!
# When a synthesis fails

A synthesis fails exactly if some criterion of the table has an offence, and then with the
offence of the first one that has.  Nothing after that criterion matters: another table that
begins alike, held by a filter with the same values so far, fails with the same fault.
-/

namespace Criteria

namespace Filter

/-- **When and how a synthesis fails.**  It fails exactly if some criterion has an offence; the
fault is the offence of the first that has, and stays the same whatever comes after it. -/
theorem synthesize_failure (schema : Schema) (options : Options) (f : Filter) :
    ((∃ fault, f.synthesize schema options = .error fault) ↔
        ∃ c ∈ f.table, (f.scanned c).Offends schema options) ∧
      ∀ before c after, f.table = before ++ c :: after →
        (∀ x ∈ before, ¬ (f.scanned x).Offends schema options) →
        ∀ fault, (f.scanned c).Offence schema options fault →
          f.synthesize schema options = .error fault ∧
            ∀ (g : Filter) (after' : List Criterion), g.table = before ++ c :: after' →
              (∀ x ∈ before ++ [c], g.read x.name = f.read x.name) →
              g.synthesize schema options = .error fault := by
  refine ⟨⟨?_, ?_⟩, ?_⟩
  · rintro ⟨fault, h⟩
    obtain ⟨before, c, after, htable, -, hc⟩ := synthesize_eq_error_iff.1 h
    exact ⟨c, by rw [htable]; exact List.mem_append_right before List.mem_cons_self, fault, hc⟩
  · rintro ⟨c, hc, hoffends⟩
    cases h : f.synthesize schema options with
    | error fault => exact ⟨fault, rfl⟩
    | ok result => exact absurd hoffends ((synthesize_eq_ok_iff.1 h).1 c hc)
  · intro before c after htable hbefore fault hc
    refine ⟨synthesize_eq_error_iff.2 ⟨before, c, after, htable, hbefore, hc⟩, ?_⟩
    intro g after' htable' hread
    have hsame : ∀ x ∈ before ++ [c], g.scanned x = f.scanned x := fun x hx => by
      unfold scanned
      rw [hread x hx]
    refine synthesize_eq_error_iff.2 ⟨before, c, after', htable', fun x hx => ?_, ?_⟩
    · rw [hsame x (List.mem_append_left [c] hx)]
      exact hbefore x hx
    · rw [hsame c (by simp)]
      exact hc

/-- A null value with a missing target fails before a value that cannot be compared. -/
theorem synthesize_failure_missing_target :
    let schema := Schema.ofColumns [("title", .text false), ("score", .number)]
    let first : Criterion := ⟨"title", .text, {}⟩
    let missing : Criterion := ⟨"ghost", .text, { target := some "spirit" }⟩
    let unpaired : Criterion := ⟨"score", .text, {}⟩
    let f := ofRows
      [(first, .text (some "x")), (missing, .text none), (unpaired, .text (some "9"))] {}
    f.synthesize schema {} = .error (.missingTarget "ghost" "spirit") ∧
      ∀ (g : Filter) (after : List Criterion), g.table = [first] ++ missing :: after →
        (∀ x ∈ [first] ++ [missing], g.read x.name = f.read x.name) →
        g.synthesize schema {} = .error (.missingTarget "ghost" "spirit") := by
  intro schema first missing unpaired f
  exact (synthesize_failure schema {} f).2 [first] missing [unpaired] rfl (by decide) _
    (.untargeted rfl rfl rfl)

end Filter

end Criteria
