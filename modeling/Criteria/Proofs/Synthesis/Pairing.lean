import Criteria.Proofs.Synthesis.Compatibility

/-!
# What a fault of pairing reports

A synthesis that stops because a value cannot be compared with its target reports two kinds: the
target's, and the one that the criterion declares.  What cannot be compared is the value, though,
and a table does not bind a filter to hold values of the declared kinds.  So the kinds that are
reported could be compared exactly if the synthesis stops at a criterion whose value is of such
another kind (`Filter.synthesize_unpaired`).
-/

namespace Criteria

theorem Reading.exists_kind?_of_isPresent {reading : Reading} {ignoreIfEmpty : Bool}
    (h : reading.isPresent ignoreIfEmpty = true) : ∃ k, reading.kind? = some k := by
  cases reading with
  | unreadable => cases h
  | _ => exact ⟨_, rfl⟩

namespace Scanned

variable {schema : Schema} {options : Options} {s : Scanned}

/-- Whether a criterion takes part with a value of a kind that cannot be compared with the target's,
while values of the kind that it declares can. -/
inductive Misdeclared (schema : Schema) (s : Scanned) : Prop
  | intro {k kind : Kind} (hskip : s.criterion.rules.skipSynthesis = false)
      (htarget : schema s.criterion.target = some kind) (hpresent : s.isPresent = true)
      (hkind : s.reading.kind? = some k) (hpair : k.suits kind = false)
      (hdeclared : s.criterion.kind.suits kind = true) : Misdeclared schema s

/-- A fault of pairing is found of a value whose kind does not suit the target's. -/
theorem Offence.exists_kind? {field target : String} {declared kind : Kind}
    (h : s.Offence schema options (.unsupportedPairing field declared target kind)) :
    schema target = some kind ∧ ∃ k, s.reading.kind? = some k ∧ k.suits kind = false := by
  cases h with
  | unpaired _ htarget hpresent hpair =>
    obtain ⟨k, hk⟩ := Reading.exists_kind?_of_isPresent hpresent
    exact ⟨htarget, k, hk, Reading.pairsWith_eq_suits hk kind ▸ hpair⟩

/-- A criterion is at fault for a pairing whose kinds could be compared exactly if it is
misdeclared. -/
theorem exists_offence_suits_iff :
    (∃ field declared target kind,
        s.Offence schema options (.unsupportedPairing field declared target kind) ∧
          declared.suits kind = true) ↔ s.Misdeclared schema := by
  constructor
  · rintro ⟨field, declared, target, kind, hoffence, hdeclared⟩
    obtain ⟨-, k, hk, hsuits⟩ := hoffence.exists_kind?
    cases hoffence with
    | unpaired hskip htarget hpresent _ =>
      exact .intro hskip htarget hpresent hk hsuits hdeclared
  · rintro ⟨hskip, htarget, hpresent, hk, hpair, hdeclared⟩
    refine ⟨_, _, _, _, .unpaired hskip htarget hpresent ?_, hdeclared⟩
    rw [Reading.pairsWith_eq_suits hk, hpair]

end Scanned

namespace Filter

/-- **What a fault of pairing reports.**  The value at fault is of a kind that cannot be compared
with the target's; so the kinds that are reported cannot be compared either if the value is of the
declared kind.  They could be compared exactly if the first criterion with an offence is
misdeclared. -/
theorem synthesize_unpaired (schema : Schema) (options : Options) (f : Filter) :
    (∀ field declared target kind,
      f.synthesize schema options = .error (.unsupportedPairing field declared target kind) →
        (schema target = some kind ∧ ∃ k, (f.read field).kind? = some k ∧ k.suits kind = false) ∧
          ((f.read field).kind? = some declared → declared.suits kind = false)) ∧
      ((∃ field declared target kind,
          f.synthesize schema options = .error (.unsupportedPairing field declared target kind) ∧
            declared.suits kind = true) ↔
        ∃ before c after, f.table = before ++ c :: after ∧
          (∀ x ∈ before, ¬ (f.scanned x).Offends schema options) ∧
            (f.scanned c).Misdeclared schema) := by
  constructor
  · intro field declared target kind h
    obtain ⟨before, c, after, -, -, hc⟩ := synthesize_eq_error_iff.1 h
    have hreads : field = c.name := by cases hc; rfl
    obtain ⟨htarget, k, hk, hsuits⟩ := hc.exists_kind?
    rw [hreads]
    refine ⟨⟨htarget, k, hk, hsuits⟩, fun hdeclared => ?_⟩
    obtain rfl : k = declared := Option.some.inj (hk.symm.trans hdeclared)
    exact hsuits
  · constructor
    · rintro ⟨field, declared, target, kind, h, hdeclared⟩
      obtain ⟨before, c, after, htable, hbefore, hc⟩ := synthesize_eq_error_iff.1 h
      exact ⟨before, c, after, htable, hbefore,
        Scanned.exists_offence_suits_iff.1 ⟨field, declared, target, kind, hc, hdeclared⟩⟩
    · rintro ⟨before, c, after, htable, hbefore, hc⟩
      obtain ⟨field, declared, target, kind, hoffence, hdeclared⟩ :=
        Scanned.exists_offence_suits_iff.2 hc
      exact ⟨field, declared, target, kind,
        synthesize_eq_error_iff.2 ⟨before, c, after, htable, hbefore, hoffence⟩, hdeclared⟩

/-- A text aimed at a date: the kinds that are reported are those of the two fields, and cannot be
compared. -/
theorem synthesize_unpaired_text :
    let schema := Schema.ofColumns [("due", .date .timestamp true)]
    let f := ofRows [(⟨"due", .text, {}⟩, .text (some "x"))] {}
    f.synthesize schema {} = .error (.unsupportedPairing "due" .text "due" .optionalDate) ∧
      (f.read "due").kind? = some .text ∧ Kind.text.suits .optionalDate = false := by
  intro schema f
  have h : f.synthesize schema {} =
      .error (.unsupportedPairing "due" .text "due" .optionalDate) := rfl
  exact ⟨h, rfl, ((synthesize_unpaired schema {} f).1 _ _ _ _ h).2 rfl⟩

/-- An instant held by a criterion that declares texts: the fault says that texts cannot be compared
with texts. -/
theorem synthesize_unpaired_misdeclared :
    let schema := Schema.ofColumns [("due", .text false)]
    let f := ofRows [(⟨"due", .text, {}⟩, .date (some (Timestamp.ofSeconds 5)))] {}
    f.table.check = .ok () ∧
      f.synthesize schema {} = .error (.unsupportedPairing "due" .text "due" .text) ∧
        Kind.text.suits .text = true :=
  ⟨rfl, rfl, rfl⟩

end Filter

end Criteria
