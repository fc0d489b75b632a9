import Criteria.Text.Screaming

/-!
# What a screaming name keeps

The screaming form of a name differs from the name in letter case and underscores alone.  All that
the loop knows of what it has read is whether a small letter comes just before, so that the form is
told character by character (`screamingFrom_cons`).

* `screaming_keeps_letters`: the other characters stay, an underscore comes in where a capital
  follows a small letter and nowhere else, and within ASCII a second time changes nothing.
-/

namespace Criteria.Text

/-! ## Characters -/

/-- A character with a small ASCII letter made capital. -/
def capitalOf (c : Char) : Char :=
  if 'a' ≤ c ∧ c ≤ 'z' then Char.ofNat (c.toNat - 32) else c

def isSeparator (c : Char) : Bool :=
  c == '_' || c == '-'

/-- Whether a character is a letter and no capital. -/
def isSmall (c : Char) : Bool :=
  isAlphabetic c && !isUppercase c

theorem toNat_capitalOf {c : Char} (h : 'a' ≤ c ∧ c ≤ 'z') :
    (capitalOf c).toNat = c.toNat - 32 := by
  have hmax : c.toNat ≤ 122 := h.2
  have hlt : c.toNat - 32 < 123 := by omega
  have hvalid : (c.toNat - 32).isValidChar := Or.inl (Nat.lt_trans hlt (by decide))
  have hchar : Char.ofNat (c.toNat - 32) = Char.ofNatAux (c.toNat - 32) hvalid := dif_pos hvalid
  rw [capitalOf, if_pos h, hchar]
  rfl

theorem toUpper_eq_capitalOf (c : Char) : c.toUpper = capitalOf c := by
  by_cases h : 'a' ≤ c ∧ c ≤ 'z'
  · have hmin : 97 ≤ c.toNat := h.1
    have hmax : c.toNat ≤ 122 := h.2
    -- the distance between the letters wraps around
    have hdiff : ('A'.val - 'a'.val).toNat = 4294967264 := by decide
    have hrange : 'a'.val ≤ c.val ∧ c.val ≤ 'z'.val := h
    obtain ⟨hvalid, hupper⟩ : ∃ hvalid, c.toUpper = ⟨c.val + ('A'.val - 'a'.val), hvalid⟩ :=
      ⟨_, dif_pos hrange⟩
    refine Char.toNat_inj.1 ?_
    rw [toNat_capitalOf h, hupper, ← Char.toNat_val, UInt32.toNat_add, hdiff, Char.toNat_val]
    omega
  · rw [capitalOf, if_neg h]
    exact dif_neg h

theorem utf8Size_capitalOf (c : Char) : (capitalOf c).utf8Size = c.utf8Size := by
  by_cases h : 'a' ≤ c ∧ c ≤ 'z'
  · have hmax : c.toNat ≤ 122 := h.2
    have hcapital : (capitalOf c).toNat ≤ 127 := by
      rw [toNat_capitalOf h]
      omega
    have hsmall : c.toNat ≤ 127 := by omega
    rw [Char.utf8Size_eq_one_iff.2 hcapital, Char.utf8Size_eq_one_iff.2 hsmall]
  · rw [capitalOf, if_neg h]

/-! ### Within ASCII -/

theorem has_uppercase_of_lt :
    ∀ n < 128, uppercase.has n = decide (65 ≤ n ∧ n ≤ 90) := by
  decide

theorem has_alphabetic_of_lt :
    ∀ n < 128, alphabetic.has n = decide ((65 ≤ n ∧ n ≤ 90) ∨ (97 ≤ n ∧ n ≤ 122)) := by
  decide

/-- A capital letter is none of those that are made capital. -/
theorem capitalOf_of_isUppercase {c : Char} (h : isUppercase c = true) : capitalOf c = c := by
  refine if_neg ?_
  rintro ⟨hmin, hmax⟩
  have hmin : 97 ≤ c.toNat := hmin
  have hmax : c.toNat ≤ 122 := hmax
  rw [isUppercase, has_uppercase_of_lt c.toNat (by omega), decide_eq_true_iff] at h
  omega

theorem isSeparator_iff {c : Char} : isSeparator c = true ↔ c.toNat = 95 ∨ c.toNat = 45 := by
  have hunderscore : c.toNat = 95 ↔ c = '_' := Char.toNat_inj (d := '_')
  have hhyphen : c.toNat = 45 ↔ c = '-' := Char.toNat_inj (d := '-')
  rw [isSeparator, Bool.or_eq_true, beq_iff_eq, beq_iff_eq, hunderscore, hhyphen]

theorem isSeparator_capitalOf (c : Char) : isSeparator (capitalOf c) = isSeparator c := by
  by_cases h : 'a' ≤ c ∧ c ≤ 'z'
  · have hmin : 97 ≤ c.toNat := h.1
    have hmax : c.toNat ≤ 122 := h.2
    rw [Bool.eq_iff_iff, isSeparator_iff, isSeparator_iff, toNat_capitalOf h]
    omega
  · rw [capitalOf, if_neg h]

theorem isUppercase_of_isSeparator {c : Char} (h : isSeparator c = true) :
    isUppercase c = false := by
  rw [isSeparator_iff] at h
  rw [isUppercase, has_uppercase_of_lt c.toNat (by omega), decide_eq_false_iff_not]
  omega

theorem isSmall_of_isSeparator {c : Char} (h : isSeparator c = true) : isSmall c = false := by
  rw [isSeparator_iff] at h
  have halphabetic : isAlphabetic c = false := by
    rw [isAlphabetic, has_alphabetic_of_lt c.toNat (by omega), decide_eq_false_iff_not]
    omega
  rw [isSmall, halphabetic, Bool.false_and]

/-! ## One character after the other -/

/-- What a character becomes by itself. -/
def screamed (c : Char) : Char :=
  if isSeparator c then '_' else capitalOf c

/-- What comes in front of a character. -/
def gapBefore (afterSmall : Bool) (c : Char) : List Char :=
  if afterSmall && isUppercase c then ['_'] else []

theorem screamingFrom_cons (afterSmall : Bool) (c : Char) (rest : List Char) :
    screamingFrom afterSmall (c :: rest) =
      gapBefore afterSmall c ++ screamed c :: screamingFrom (isSmall c) rest := by
  rw [screamingFrom, gapBefore, screamed]
  by_cases hupper : isUppercase c = true
  · have hseparator : isSeparator c = false := by
      refine Bool.eq_false_iff.2 fun hseparator => ?_
      rw [isUppercase_of_isSeparator hseparator] at hupper
      cases hupper
    simp only [hupper, if_true, hseparator, isSmall, capitalOf_of_isUppercase hupper, Bool.and_true,
      Bool.not_true, Bool.and_false, Bool.false_eq_true, if_false]
    cases afterSmall <;> rfl
  · have hseparated : (c = '_' ∨ c = '-') ↔ isSeparator c = true := by simp [isSeparator]
    simp only [hupper, if_false, Bool.and_false, List.nil_append, hseparated, Bool.false_eq_true]
    by_cases hseparator : isSeparator c = true
    · simp only [hseparator, if_true, isSmall_of_isSeparator hseparator]
    · simp only [hseparator, Bool.false_eq_true, if_false, toUpper_eq_capitalOf, isSmall, hupper,
        Bool.not_false, Bool.and_true]

theorem forall_mem_screamingFrom {P : Char → Prop} {afterSmall : Bool} {cs : List Char}
    (hunderscore : P '_') (h : ∀ c ∈ cs, P (screamed c)) :
    ∀ c ∈ screamingFrom afterSmall cs, P c := by
  induction cs generalizing afterSmall with
  | nil => simp [screamingFrom]
  | cons c rest ih =>
    obtain ⟨hc, hrest⟩ := List.forall_mem_cons.1 h
    rw [screamingFrom_cons, List.forall_mem_append, List.forall_mem_cons]
    refine ⟨fun d hd => ?_, hc, ih hrest⟩
    unfold gapBefore at hd
    split at hd
    · rwa [List.mem_singleton.1 hd]
    · cases hd

/-- What is left without the underscores. -/
theorem filter_screamingFrom (afterSmall : Bool) (cs : List Char) :
    (screamingFrom afterSmall cs).filter (· != '_') =
      (cs.filter fun c => !isSeparator c).map capitalOf := by
  induction cs generalizing afterSmall with
  | nil => rfl
  | cons c rest ih =>
    have hgap : (gapBefore afterSmall c).filter (· != '_') = [] := by
      unfold gapBefore
      split <;> rfl
    rw [screamingFrom_cons, List.filter_append, hgap, List.nil_append]
    by_cases hseparator : isSeparator c = true
    · rw [List.filter_cons_of_neg (by simp [screamed, hseparator]), ih,
        List.filter_cons_of_neg (by simp [hseparator])]
    · have hkept : screamed c = capitalOf c := if_neg hseparator
      have hne : capitalOf c ≠ '_' := by
        rw [← isSeparator_capitalOf] at hseparator
        intro heq
        rw [heq] at hseparator
        exact hseparator rfl
      rw [hkept, List.filter_cons_of_pos (by simp [hne]), ih,
        List.filter_cons_of_pos (by simp [hseparator]), List.map_cons]

/-! ## Underscores that come in -/

/-- The number of places in a text where a capital follows a small letter. -/
def boundaries (cs : List Char) : Nat :=
  (cs.zip cs.tail).countP fun (before, c) => isSmall before && isUppercase c

theorem boundaries_cons_cons (b c : Char) (rest : List Char) :
    boundaries (b :: c :: rest) =
      boundaries (c :: rest) + if isSmall b && isUppercase c then 1 else 0 :=
  List.countP_cons

/-- The total weight of characters. -/
def weigh (weight : Char → Nat) : List Char → Nat
  | [] => 0
  | c :: rest => weight c + weigh weight rest

theorem weigh_append (weight : Char → Nat) (cs rest : List Char) :
    weigh weight (cs ++ rest) = weigh weight cs + weigh weight rest := by
  induction cs with
  | nil => simp [weigh]
  | cons c cs ih => rw [List.cons_append, weigh, weigh, ih, Nat.add_assoc]

theorem length_eq_weigh (s : String) : s.length = weigh (fun _ => 1) s.toList := by
  rw [← String.length_toList]
  induction s.toList with
  | nil => rfl
  | cons c rest ih => rw [List.length_cons, weigh, ih, Nat.add_comm]

theorem utf8ByteSize_eq_weigh (s : String) : s.utf8ByteSize = weigh Char.utf8Size s.toList := by
  have hlist : ∀ cs, (String.ofList cs).utf8ByteSize = weigh Char.utf8Size cs := by
    intro cs
    induction cs with
    | nil => rfl
    | cons c rest ih =>
      rw [String.ofList_cons, String.utf8ByteSize_append, String.utf8ByteSize_singleton, ih, weigh]
  rw [← hlist, String.ofList_toList]

/-- The weight of a screaming form, for weights that do not tell small letters from capitals and are
one for underscores and hyphens. -/
theorem weigh_screamingFrom {weight : Char → Nat} (hcapital : ∀ c, weight (capitalOf c) = weight c)
    (hseparator : ∀ c, isSeparator c = true → weight c = 1) (before : Char) (cs : List Char) :
    weigh weight (screamingFrom (isSmall before) cs) =
      weigh weight cs + boundaries (before :: cs) := by
  induction cs generalizing before with
  | nil => rfl
  | cons c rest ih =>
    have hunderscore : weight '_' = 1 := hseparator '_' rfl
    have hscreamed : weight (screamed c) = weight c := by
      unfold screamed
      split
      · next h => rw [hunderscore, hseparator c h]
      · exact hcapital c
    have hgap : weigh weight (gapBefore (isSmall before) c) =
        if isSmall before && isUppercase c then 1 else 0 := by
      unfold gapBefore
      split
      · rw [weigh, weigh, hunderscore]
      · rfl
    rw [screamingFrom_cons, weigh_append, hgap, weigh, hscreamed, ih, weigh,
      boundaries_cons_cons]
    omega

theorem weigh_screaming {weight : Char → Nat} (hcapital : ∀ c, weight (capitalOf c) = weight c)
    (hseparator : ∀ c, isSeparator c = true → weight c = 1) (s : String) :
    weigh weight (screaming s).toList = weigh weight s.toList + boundaries s.toList := by
  -- an underscore in front changes nothing
  have hfront : boundaries ('_' :: s.toList) = boundaries s.toList := by
    cases s.toList with
    | nil => rfl
    | cons c rest => exact boundaries_cons_cons '_' c rest
  rw [screaming, String.toList_ofList, ← hfront]
  exact weigh_screamingFrom hcapital hseparator '_' s.toList

/-! ## A second time -/

/-- The characters of a screaming form within ASCII. -/
def IsLoud (c : Char) : Prop :=
  c.toNat < 128 ∧ c.isLower = false ∧ c ≠ '-'

theorem isLower_iff {c : Char} : c.isLower = true ↔ 'a' ≤ c ∧ c ≤ 'z' := by
  have hlower : c.isLower = (decide ('a' ≤ c) && decide (c ≤ 'z')) := rfl
  rw [hlower, Bool.and_eq_true, decide_eq_true_iff, decide_eq_true_iff]

theorem isLoud_underscore : IsLoud '_' :=
  ⟨by decide, by decide, by decide⟩

theorem isLoud_screamed {c : Char} (h : c.toNat < 128) : IsLoud (screamed c) := by
  unfold screamed
  split
  · exact isLoud_underscore
  · next hseparator =>
    rw [← isSeparator_capitalOf] at hseparator
    have hhyphen : capitalOf c ≠ '-' := by
      intro heq
      rw [heq] at hseparator
      exact hseparator rfl
    by_cases hsmall : 'a' ≤ c ∧ c ≤ 'z'
    · have hmax : c.toNat ≤ 122 := hsmall.2
      have hcapital := toNat_capitalOf hsmall
      refine ⟨by omega, ?_, hhyphen⟩
      rw [← Bool.not_eq_true, isLower_iff]
      rintro ⟨hmin, -⟩
      have hmin : 97 ≤ (capitalOf c).toNat := hmin
      omega
    · have hkept : capitalOf c = c := if_neg hsmall
      rw [hkept] at hhyphen ⊢
      refine ⟨h, ?_, hhyphen⟩
      rwa [← Bool.not_eq_true, isLower_iff]

theorem IsLoud.isSmall_eq {c : Char} (h : IsLoud c) : isSmall c = false := by
  obtain ⟨hascii, hlower, -⟩ := h
  rw [isSmall, isAlphabetic, isUppercase, has_alphabetic_of_lt _ hascii,
    has_uppercase_of_lt _ hascii]
  rw [← Bool.not_eq_true, isLower_iff] at hlower
  have hrange : ¬ (97 ≤ c.toNat ∧ c.toNat ≤ 122) := hlower
  simp [hrange]

theorem IsLoud.screamed_eq {c : Char} (h : IsLoud c) : screamed c = c := by
  obtain ⟨-, hlower, hhyphen⟩ := h
  rw [← Bool.not_eq_true, isLower_iff] at hlower
  unfold screamed
  split
  · next hseparator =>
    simp only [isSeparator, Bool.or_eq_true, beq_iff_eq, hhyphen, or_false] at hseparator
    exact hseparator.symm
  · exact if_neg hlower

theorem screamingFrom_of_isLoud {cs : List Char} (h : ∀ c ∈ cs, IsLoud c) :
    screamingFrom false cs = cs := by
  induction cs with
  | nil => rfl
  | cons c rest ih =>
    obtain ⟨hc, hrest⟩ := List.forall_mem_cons.1 h
    rw [screamingFrom_cons, hc.screamed_eq, hc.isSmall_eq, ih hrest]
    rfl

/-- **A screaming name has the letters of the name.**  Without its underscores it is the name
without underscores and hyphens, in capitals as far as ASCII goes.  It is longer, in characters and
in bytes, by the number of places where a capital follows a small letter.  Within ASCII no small
letter is left, and the screaming form of the form is the form itself. -/
theorem screaming_keeps_letters (s : String) :
    (screaming s).toList.filter (· != '_') =
        (s.toList.filter fun c => !isSeparator c).map capitalOf ∧
      (screaming s).length = s.length + boundaries s.toList ∧
      (screaming s).utf8ByteSize = s.utf8ByteSize + boundaries s.toList ∧
      ((∀ c ∈ s.toList, c.toNat < 128) →
        (∀ c ∈ (screaming s).toList, c.toNat < 128 ∧ c.isLower = false) ∧
          screaming (screaming s) = screaming s) := by
  have hchars : (screaming s).toList = screamingFrom false s.toList := String.toList_ofList
  refine ⟨?_, ?_, ?_, fun hascii => ?_⟩
  · rw [hchars]
    exact filter_screamingFrom false s.toList
  · rw [length_eq_weigh, length_eq_weigh]
    exact weigh_screaming (fun _ => rfl) (fun _ _ => rfl) s
  · rw [utf8ByteSize_eq_weigh, utf8ByteSize_eq_weigh]
    refine weigh_screaming utf8Size_capitalOf (fun c hc => ?_) s
    rw [isSeparator_iff] at hc
    have hle : c.toNat ≤ 127 := by omega
    exact Char.utf8Size_eq_one_iff.2 hle
  · have hloud : ∀ c ∈ (screaming s).toList, IsLoud c := by
      rw [hchars]
      exact forall_mem_screamingFrom isLoud_underscore fun c hc => isLoud_screamed (hascii c hc)
    refine ⟨fun c hc => ⟨(hloud c hc).1, (hloud c hc).2.1⟩, ?_⟩
    have hsecond : screaming (screaming s) =
        String.ofList (screamingFrom false (screaming s).toList) := rfl
    rw [hsecond, screamingFrom_of_isLoud hloud, String.ofList_toList]

/-- Small words, a word in capitals and a hyphen between words. -/
theorem screaming_keeps_letters_mixed :
    let name := "lastSeenIP-v4"
    screaming name = "LAST_SEEN_IP_V4" ∧ boundaries name.toList = 2 ∧
      (∀ c ∈ name.toList, c.toNat < 128) ∧ screaming "LAST_SEEN_IP_V4" = "LAST_SEEN_IP_V4" := by
  intro name
  have hform : screaming name = "LAST_SEEN_IP_V4" := by decide
  have hall : (name.toList.all fun c => decide (c.toNat < 128)) = true := by decide
  have hascii : ∀ c ∈ name.toList, c.toNat < 128 := fun c hc =>
    of_decide_eq_true (List.all_eq_true.1 hall c hc)
  obtain ⟨-, -, -, hsecond⟩ := screaming_keeps_letters name
  have hsame := (hsecond hascii).2
  rw [hform] at hsame
  exact ⟨hform, by decide, hascii, hsame⟩

/-- Beyond ASCII a small letter can stay, and a letter that was small itself can follow it. -/
example : screaming "éa" = "éA" ∧ screaming "éA" = "é_A" := by decide

end Criteria.Text
