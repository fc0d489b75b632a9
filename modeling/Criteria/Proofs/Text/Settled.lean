import Criteria.Keyword

/-!
# Lowercase changes a text once

Lowercase leaves a text of settled characters as it is, and gives nothing but settled characters
(`settled_of_mem_lowerFrom`), so a second time it changes nothing (`lowercase_lowercase`).  No
settled character is a capital sigma: what stands around a character no longer matters then.

That the counterpart of a code point has no counterpart of its own is checked over all the runs.
The code points that the runs cover are the bits of one number, so that each look-up is one shift.
-/

namespace Criteria

/-! ## Sets of numbers as bits -/

/-- The number whose bits are the members of a list. -/
def bitsOf (ns : List Nat) : Nat :=
  ns.foldr (fun n bits => 1 <<< n ||| bits) 0

theorem testBit_bitsOf_iff {ns : List Nat} {i : Nat} :
    (bitsOf ns).testBit i = true ↔ i ∈ ns := by
  induction ns with
  | nil => simp [bitsOf]
  | cons n ns ih =>
    have hcons : bitsOf (n :: ns) = 1 <<< n ||| bitsOf ns := rfl
    rw [hcons, Nat.testBit_or, Bool.or_eq_true, ih, Nat.one_shiftLeft, Nat.testBit_two_pow,
      decide_eq_true_iff, List.mem_cons, eq_comm]

namespace Text

/-! ## Runs -/

namespace LowerRun

/-- The code points of a run. -/
def points (r : LowerRun) : List Nat :=
  (List.range ((r.last - r.first) / r.step + 1)).map fun k => r.first + r.step * k

theorem mem_points_of_covers {r : LowerRun} {n : Nat} (h : r.covers n = true) : n ∈ r.points := by
  simp only [covers, Bool.and_eq_true, decide_eq_true_eq] at h
  obtain ⟨⟨hfirst, hlast⟩, hstep⟩ := h
  refine List.mem_map.2 ⟨(n - r.first) / r.step, List.mem_range.2 ?_, ?_⟩
  · exact Nat.lt_succ_of_le (Nat.div_le_div_right (Nat.sub_le_sub_right hlast r.first))
  · have hdiv := Nat.div_add_mod (n - r.first) r.step
    omega

theorem counterpart_of_not_covered {runs : List LowerRun} {n : Nat}
    (h : ∀ r ∈ runs, r.covers n = false) : counterpart runs n = n := by
  induction runs with
  | nil => rfl
  | cons r runs ih =>
    obtain ⟨hr, hruns⟩ := List.forall_mem_cons.1 h
    unfold counterpart
    rw [hr, ih hruns]
    split <;> rfl

/-- A counterpart is the code point itself or lies at the distance of a run that covers it. -/
theorem counterpart_eq_or (runs : List LowerRun) (n : Nat) :
    counterpart runs n = n ∨
      ∃ r ∈ runs, r.covers n = true ∧ counterpart runs n = (n + r.shift).toNat := by
  induction runs with
  | nil => exact .inl rfl
  | cons r runs ih =>
    unfold counterpart
    split
    · exact .inl rfl
    split
    · next h => exact .inr ⟨r, List.mem_cons_self, h, rfl⟩
    · rcases ih with h | ⟨q, hq, hcovers, h⟩
      · exact .inl h
      · exact .inr ⟨q, List.mem_cons_of_mem r hq, hcovers, h⟩

end LowerRun

/-! ## Settled code points -/

/-- Whether lowercase leaves a code point as it is. -/
def Settled (n : Nat) : Prop :=
  n ≠ 'İ'.toNat ∧ LowerRun.counterpart lowerRuns n = n

instance (n : Nat) : Decidable (Settled n) :=
  inferInstanceAs (Decidable (_ ∧ _))

/-- The code points that lowercase changes. -/
def unsettled : List Nat :=
  'İ'.toNat :: lowerRuns.flatMap LowerRun.points

theorem settled_of_not_mem {n : Nat} (h : n ∉ unsettled) : Settled n := by
  obtain ⟨hfirst, hpoints⟩ := not_or.1 (mt List.mem_cons.2 h)
  refine ⟨hfirst, LowerRun.counterpart_of_not_covered fun r hr => ?_⟩
  refine Bool.eq_false_iff.2 fun hcovers => hpoints ?_
  exact List.mem_flatMap.2 ⟨r, hr, LowerRun.mem_points_of_covers hcovers⟩

/-- No run leads to a code point that lowercase changes. -/
theorem shifted_not_mem_unsettled :
    ∀ r ∈ lowerRuns, ∀ n ∈ r.points, (bitsOf unsettled).testBit (n + r.shift).toNat = false := by
  decide +kernel

theorem settled_counterpart {n : Nat} (h : n ≠ 'İ'.toNat) :
    Settled (LowerRun.counterpart lowerRuns n) := by
  rcases LowerRun.counterpart_eq_or lowerRuns n with heq | ⟨r, hr, hcovers, heq⟩
  · rw [heq]
    exact ⟨h, heq⟩
  · have hshifted := shifted_not_mem_unsettled r hr n (LowerRun.mem_points_of_covers hcovers)
    rw [heq]
    refine settled_of_not_mem fun hmem => ?_
    rw [testBit_bitsOf_iff.2 hmem] at hshifted
    cases hshifted

/-! ## Settled characters -/

theorem lowerChar_of_settled {c : Char} (h : Settled c.toNat) : lowerChar c = [c] := by
  have hc : c ≠ 'İ' := fun heq => h.1 (congrArg Char.toNat heq)
  unfold lowerChar
  rw [if_neg hc, h.2, Char.ofNat_toNat]

theorem ne_capitalSigma_of_settled {c : Char} (h : Settled c.toNat) : c ≠ capitalSigma := by
  rintro rfl
  exact absurd h (by decide)

theorem settled_toNat_ofNat {n : Nat} (h : Settled n) : Settled (Char.ofNat n).toNat := by
  by_cases hvalid : n.isValidChar
  · rw [Char.ofNat, dif_pos hvalid]
    exact h
  · -- a number that is no code point stands for the null character
    rw [Char.ofNat, dif_neg hvalid]
    exact (by decide : Settled 0)

theorem settled_of_mem_lowerChar {c d : Char} (hd : d ∈ lowerChar c) : Settled d.toNat := by
  unfold lowerChar at hd
  split at hd
  · rcases List.mem_cons.1 hd with rfl | hd
    · decide
    · rw [List.mem_singleton.1 hd]
      decide
  · next hc =>
    have hn : c.toNat ≠ 'İ'.toNat := fun h => hc (Char.toNat_inj.1 h)
    rw [List.mem_singleton.1 hd]
    exact settled_toNat_ofNat (settled_counterpart hn)

theorem settled_lowerSigma (before after : List Char) :
    Settled (lowerSigma before after).toNat := by
  unfold lowerSigma
  split <;> decide

/-! ## Texts -/

theorem settled_of_mem_lowerFrom {before cs : List Char} {d : Char}
    (hd : d ∈ lowerFrom before cs) : Settled d.toNat := by
  induction cs generalizing before with
  | nil => cases hd
  | cons c rest ih =>
    rcases List.mem_append.1 hd with hd | hd
    · split at hd
      · rw [List.mem_singleton.1 hd]
        exact settled_lowerSigma before rest
      · exact settled_of_mem_lowerChar hd
    · exact ih hd

theorem lowerFrom_of_settled {before cs : List Char} (h : ∀ c ∈ cs, Settled c.toNat) :
    lowerFrom before cs = cs := by
  induction cs generalizing before with
  | nil => rfl
  | cons c rest ih =>
    obtain ⟨hc, hrest⟩ := List.forall_mem_cons.1 h
    rw [lowerFrom, if_neg (ne_capitalSigma_of_settled hc), lowerChar_of_settled hc, ih hrest]
    rfl

theorem lowercase_lowercase (s : String) : lowercase (lowercase s) = lowercase s := by
  unfold lowercase lowerChars
  rw [String.toList_ofList, lowerFrom_of_settled fun _ => settled_of_mem_lowerFrom]

end Text

theorem Case.normalize_normalize (case : Case) (s : String) :
    case.normalize (case.normalize s) = case.normalize s := by
  cases case with
  | sensitive => rfl
  | insensitive => exact Text.lowercase_lowercase s

end Criteria
