import Criteria.Proofs.Source.Blanks
import Criteria.Proofs.Text.Delimited

/-!
# Identifiers

An identifier goes on as long as its characters do, and what may stand between tokens begins with
none of these.  So an identifier with a gap after it is taken as a leaf, and as no other one.

* `readLeaf?_append`: an identifier is read to its end.
* `isIdentifier_of_readLeaf?`: only identifiers are read as such.
-/

namespace Criteria

/-! ## Classes of characters -/

/-- The members of ranges one by one. -/
def Text.Ranges.points (r : Ranges) : List Nat :=
  r.flatMap fun (first, last) => List.range' first (last + 1 - first)

theorem Text.Ranges.mem_points_of_has {bound n : Nat} {r : Ranges}
    (hr : ascendingFrom bound r = true) (h : has r n = true) : n ∈ r.points := by
  obtain ⟨⟨first, last⟩, hmem, hfirst, hlast⟩ := (has_iff hr).1 h
  refine List.mem_flatMap.2 ⟨(first, last), hmem, List.mem_range'_1.2 ⟨hfirst, ?_⟩⟩
  dsimp only at hfirst hlast
  omega

namespace Source

open Text (isXidStart isXidContinue xidStart xidContinue)

theorem not_xid_of_isSourceBlank {c : Char} (h : isSourceBlank c = true) :
    isXidStart c = false ∧ isXidContinue c = false := by
  have hblanks : Text.Ranges.ascendingFrom 0 sourceBlanks = true := by decide
  have hall : (sourceBlanks.points.all fun n => !xidStart.has n && !xidContinue.has n) = true := by
    decide +kernel
  have hpoint := List.all_eq_true.1 hall _ (Text.Ranges.mem_points_of_has hblanks h)
  rw [Bool.and_eq_true, Bool.not_eq_true', Bool.not_eq_true'] at hpoint
  exact hpoint

/-- Characters that no identifier begins with: they are tokens, or begin a number or a text. -/
def nameless : List Char :=
  '\uFEFF' :: "~!@#$%^&*-=+|;:,<.>/?'\"()[]\x7b\x7d0123456789".toList

theorem ne_of_isIdentStart {c d : Char} (h : isIdentStart c = true) (hd : d ∈ nameless) :
    c ≠ d := by
  have hall : (nameless.all fun d => !isIdentStart d) = true := by decide +kernel
  rintro rfl
  have hstart := List.all_eq_true.1 hall c hd
  simp [h] at hstart

theorem isDigit_of_isIdentStart {c : Char} (h : isIdentStart c = true) : c.isDigit = false := by
  have hall : ∀ n < 58, 48 ≤ n → xidStart.has n = false := by decide
  refine Bool.eq_false_iff.2 fun hdigit => ?_
  obtain ⟨hmin, hmax⟩ := Char.isDigit_iff_toNat.1 hdigit
  have hlt : c.toNat < 58 := Nat.lt_succ_of_le hmax
  have hstart : isXidStart c = false := hall c.toNat hlt hmin
  have hunderscore : c ≠ '_' := by
    rintro rfl
    cases hdigit
  simp [isIdentStart, hunderscore, hstart] at h

theorem isSourceBlank_of_isIdentStart {c : Char} (h : isIdentStart c = true) :
    isSourceBlank c = false := by
  refine Bool.eq_false_iff.2 fun hblank => ?_
  have hunderscore : c ≠ '_' := by
    rintro rfl
    exact absurd hblank (by decide)
  simp [isIdentStart, hunderscore, (not_xid_of_isSourceBlank hblank).1] at h

/-- Characters that make letters before them the beginning of a text or of a raw identifier. -/
def opensText (c : Char) : Bool :=
  c == '"' || c == '\'' || c == '#'

/-- Characters that an identifier does not end before. -/
def continuesIdent (c : Char) : Bool :=
  isIdentContinue c || opensText c

theorem continuesIdent_eq_false_iff {c : Char} :
    continuesIdent c = false ↔ isIdentContinue c = false ∧ opensText c = false :=
  Bool.or_eq_false_iff

theorem opensText_of_isIdentContinue {c : Char} (h : isIdentContinue c = true) :
    opensText c = false := by
  have hall : (['"', '\'', '#'].all fun d => !isIdentContinue d) = true := by decide +kernel
  refine Bool.eq_false_iff.2 fun hopens => ?_
  have hmem : c ∈ ['"', '\'', '#'] := by
    simpa only [opensText, Bool.or_eq_true, beq_iff_eq, List.mem_cons, List.not_mem_nil, or_false,
      or_assoc] using hopens
  have hnot := List.all_eq_true.1 hall c hmem
  simp [h] at hnot

theorem beginsOutside_of_gap {cs : List Char} (h : Gap cs []) :
    BeginsOutside continuesIdent cs := by
  rcases h.eq_or_exists_cons with rfl | ⟨c, tail, rfl, hc⟩
  · exact .nil continuesIdent
  rw [beginsOutside_cons_iff]
  rcases hc with hblank | rfl
  · refine continuesIdent_eq_false_iff.2 ⟨(not_xid_of_isSourceBlank hblank).2, ?_⟩
    have hne : ∀ d, isSourceBlank d = false → c ≠ d := by
      rintro d hd rfl
      rw [hblank] at hd
      cases hd
    simp [opensText, hne '"' (by decide), hne '\'' (by decide), hne '#' (by decide)]
  · decide +kernel

/-- No text is opened inside an identifier. -/
theorem beginsOutside_opensText {tail rest : List Char}
    (htail : ∀ c ∈ tail, isIdentContinue c = true) (hrest : BeginsOutside continuesIdent rest) :
    BeginsOutside opensText (tail ++ rest) := by
  cases tail with
  | nil => exact hrest.mono fun c hc => (continuesIdent_eq_false_iff.1 hc).2
  | cons c tail =>
    exact beginsOutside_cons_iff.2 (opensText_of_isIdentContinue (htail c List.mem_cons_self))

/-! ## Identifiers -/

/-- The characters of a plain identifier. -/
def IsName (name : List Char) : Prop :=
  ∃ c tail, name = c :: tail ∧ isIdentStart c = true ∧ ∀ d ∈ tail, isIdentContinue d = true

/-- The characters of an identifier, plain or raw. -/
inductive IsIdentifier : List Char → Prop
  | plain {name : List Char} (h : IsName name) : IsIdentifier name
  | raw {name : List Char} (h : IsName name) (hraw : String.ofList name ∉ neverRaw) :
      IsIdentifier ('r' :: '#' :: name)

theorem readName?_append {name rest : List Char} (hname : IsName name)
    (hrest : BeginsOutside isIdentContinue rest) :
    readName? (name ++ rest) = some (name, rest) := by
  obtain ⟨c, tail, rfl, hc, htail⟩ := hname
  rw [List.cons_append, readName?, if_pos hc, takeWhile_append_eq htail hrest,
    dropWhile_append_eq htail hrest]

theorem isName_of_readName? {cs name rest : List Char} (h : readName? cs = some (name, rest)) :
    IsName name ∧ cs = name ++ rest := by
  cases cs with
  | nil => cases h
  | cons c cs =>
    rw [readName?] at h
    split at h
    · next hc =>
      obtain ⟨rfl, rfl⟩ := Prod.mk.inj (Option.some.inj h)
      have hall := List.all_eq_true.1 (List.all_takeWhile (p := isIdentContinue) (l := cs))
      refine ⟨⟨c, _, rfl, hc, hall⟩, ?_⟩
      rw [List.cons_append, List.takeWhile_append_dropWhile]
    · cases h

theorem readIdent?_eq_readName? {cs : List Char} (h : ∀ rest, cs ≠ 'r' :: '#' :: rest) :
    readIdent? cs = readName? cs := by
  unfold readIdent?
  split
  · next rest => exact absurd rfl (h rest)
  · rfl

theorem readIdent?_append {x rest : List Char} (hx : IsIdentifier x)
    (hrest : BeginsOutside continuesIdent rest) : readIdent? (x ++ rest) = some (x, rest) := by
  have hcontinue : BeginsOutside isIdentContinue rest :=
    hrest.mono fun c hc => (continuesIdent_eq_false_iff.1 hc).1
  cases hx with
  | plain h =>
    rw [readIdent?_eq_readName?, readName?_append h hcontinue]
    obtain ⟨c, tail, rfl, -, htail⟩ := h
    have hsecond := beginsOutside_opensText htail hrest
    intro more heq
    rw [List.cons_append] at heq
    rw [(List.cons.inj heq).2, beginsOutside_cons_iff] at hsecond
    cases hsecond
  | @raw name h hraw =>
    rw [List.cons_append, List.cons_append, readIdent?, readName?_append h hcontinue,
      Option.bind_some]
    exact if_neg (by simpa using hraw)

theorem isIdentifier_of_readIdent? {cs x rest : List Char}
    (h : readIdent? cs = some (x, rest)) : IsIdentifier x ∧ cs = x ++ rest := by
  unfold readIdent? at h
  split at h
  · next cs =>
    obtain ⟨⟨name, left⟩, hread, hkept⟩ := Option.bind_eq_some_iff.1 h
    obtain ⟨hname, rfl⟩ := isName_of_readName? hread
    dsimp only at hkept
    split at hkept
    · cases hkept
    · next hraw =>
      obtain ⟨rfl, rfl⟩ := Prod.mk.inj (Option.some.inj hkept)
      exact ⟨.raw hname (by simpa using hraw), rfl⟩
  · obtain ⟨hname, rfl⟩ := isName_of_readName? h
    exact ⟨.plain hname, rfl⟩

/-! ## No other token -/

theorem readRaw?_append_eq_none (flavour : Flavour) {hashes cs : List Char}
    (hhashes : ∀ c ∈ hashes, (c == '#') = true) (h : BeginsOutside opensText cs) :
    readRaw? flavour (hashes ++ cs) = none := by
  have hhash : BeginsOutside (· == '#') cs := h.mono fun c hc => (Bool.or_eq_false_iff.1 hc).2
  unfold readRaw?
  dsimp only
  rw [takeWhile_append_eq hhashes hhash, List.drop_left]
  split
  · rfl
  split
  · rw [beginsOutside_cons_iff] at h
    cases h
  · rfl

theorem afterFloatDigits?_eq_none {c : Char} (h : c.isDigit = false) (cs : List Char) :
    afterFloatDigits? (c :: cs) = none := by
  rw [afterFloatDigits?, h]
  rfl

theorem digitIn?_ten_eq_none {c : Char} (h : c.isDigit = false) : digitIn? 10 c = none := by
  have hdigit : ¬ ('0' ≤ c ∧ c ≤ '9') := by
    rintro ⟨hmin, hmax⟩
    rw [Char.isDigit_iff_toNat.2 ⟨hmin, hmax⟩] at h
    cases h
  unfold digitIn? hexDigit?
  rw [if_neg hdigit]
  split
  · next h =>
    have hmin : 97 ≤ c.toNat := h.1
    simp only [Option.filter_some, decide_eq_true_eq]
    rw [if_neg (by omega)]
  split
  · next h =>
    have hmin : 65 ≤ c.toNat := h.1
    simp only [Option.filter_some, decide_eq_true_eq]
    rw [if_neg (by omega)]
  · rfl

theorem afterIntDigits?_eq_none {c : Char} (h : c.isDigit = false) (cs : List Char) :
    afterIntDigits? (c :: cs) = none := by
  have hzero : c ≠ '0' := by
    rintro rfl
    cases h
  unfold afterIntDigits?
  split
  · next heq => exact absurd (List.cons.inj heq).1 hzero
  · next heq => exact absurd (List.cons.inj heq).1 hzero
  · next heq => exact absurd (List.cons.inj heq).1 hzero
  · rw [afterDigits?, digitIn?_ten_eq_none h, h]
    by_cases hc : c = '_'
    · rw [if_pos hc]
      rfl
    · rw [if_neg hc]
      rfl

theorem afterLiteral?_name {name rest : List Char} (hname : IsName name)
    (hrest : BeginsOutside continuesIdent rest) : afterLiteral? (name ++ rest) = none := by
  obtain ⟨c, tail, rfl, hc, htail⟩ := hname
  have hsecond := beginsOutside_opensText htail hrest
  have hthird : ∀ d more, tail ++ rest = d :: more → isIdentContinue d = true →
      BeginsOutside opensText more := by
    intro d more hmore hd
    cases tail with
    | nil =>
      rw [List.nil_append] at hmore
      rw [hmore, beginsOutside_cons_iff, continuesIdent_eq_false_iff, hd] at hrest
      cases hrest.1
    | cons e tail =>
      rw [List.cons_append] at hmore
      rw [← (List.cons.inj hmore).2]
      exact beginsOutside_opensText (fun f hf => htail f (List.mem_cons_of_mem e hf)) hrest
  have hr : isIdentContinue 'r' = true := by decide +kernel
  have hraw := fun flavour cs => @readRaw?_append_eq_none flavour [] cs (by simp)
  have hopened : ∀ d more, opensText d = true → tail ++ rest ≠ d :: more := by
    intro d more hd hmore
    rw [hmore, beginsOutside_cons_iff, hd] at hsecond
    cases hsecond
  have hdigit : c.isDigit = false := isDigit_of_isIdentStart hc
  rw [List.cons_append]
  unfold afterLiteral?
  rw [afterFloatDigits?_eq_none hdigit, afterIntDigits?_eq_none hdigit]
  simp only [Option.bind_none, Option.or_none, Option.map_none]
  split
  · next heq => exact absurd (List.cons.inj heq).1 (ne_of_isIdentStart hc (by decide))
  · next heq =>
    rw [← (List.cons.inj heq).2]
    exact congrArg _ (hraw .text _ hsecond)
  · next heq => exact absurd (List.cons.inj heq).2 (hopened _ _ rfl)
  · next heq => exact congrArg _ (hraw .bytes _ (hthird _ _ (List.cons.inj heq).2 hr))
  · next heq => exact absurd (List.cons.inj heq).2 (hopened _ _ rfl)
  · next heq => exact congrArg _ (hraw .terminated _ (hthird _ _ (List.cons.inj heq).2 hr))
  · next heq => exact absurd (List.cons.inj heq).2 (hopened _ _ rfl)
  · next heq => exact absurd (List.cons.inj heq).1 (ne_of_isIdentStart hc (by decide))
  · rfl

theorem afterLiteral?_eq_none {x rest : List Char} (hx : IsIdentifier x)
    (hrest : BeginsOutside continuesIdent rest) : afterLiteral? (x ++ rest) = none := by
  cases hx with
  | plain h => exact afterLiteral?_name h hrest
  | @raw name h hraw =>
    have hname : BeginsOutside opensText (name ++ rest) := by
      obtain ⟨c, tail, rfl, hc, -⟩ := h
      refine beginsOutside_cons_iff.2 ?_
      simp [opensText, ne_of_isIdentStart hc (d := '"') (by decide),
        ne_of_isIdentStart hc (d := '\'') (by decide), ne_of_isIdentStart hc (d := '#') (by decide)]
    have hread := @readRaw?_append_eq_none .text ['#'] (name ++ rest) (by simp) hname
    rw [List.cons_append, List.cons_append]
    unfold afterLiteral?
    rw [afterFloatDigits?_eq_none (by decide), afterIntDigits?_eq_none (by decide)]
    simp only [Option.bind_none, Option.or_none, Option.map_none]
    exact congrArg _ hread

theorem readMark?_eq_none {c : Char} (h : c ∉ marks) (cs : List Char) :
    readMark? (c :: cs) = none := by
  have hbegins : beginsMark (c :: cs) = false := by
    unfold beginsMark
    split
    · rfl
    · rfl
    · next heq =>
      rw [← (List.cons.inj heq).1]
      simpa using h
    · rfl
  unfold readMark?
  rw [hbegins]
  rfl

theorem exists_punct_of_readMark? {cs rest : List Char} {t : Token}
    (h : readMark? cs = some (t, rest)) : ∃ c joint, t = .punct c joint := by
  have hpunct : ∀ c joint (left : List Char),
      some (Token.punct c joint, left) = some (t, rest) → ∃ c joint, t = .punct c joint := by
    intro c joint left heq
    exact ⟨c, joint, (Prod.mk.inj (Option.some.inj heq)).1.symm⟩
  unfold readMark? at h
  split at h
  · cases h
  split at h
  · cases h
  split at h
  · -- a lifetime
    split at h
    · cases h
    dsimp only at h
    split at h
    · cases h
    · split at h
      · exact hpunct _ _ _ h
      · cases h
    · exact hpunct _ _ _ h
  · exact hpunct _ _ _ h

/-- Letters in front of a character that opens a text stand in no identifier. -/
theorem not_isPrefix_of_opensText {letters tail rest more : List Char} {c : Char}
    (hletters : ∀ d ∈ letters, isIdentContinue d = true) (hc : opensText c = true)
    (htail : ∀ d ∈ tail, isIdentContinue d = true) (hrest : BeginsOutside continuesIdent rest) :
    ¬ (letters ++ c :: more <+: tail ++ rest) := by
  rintro ⟨left, hleft⟩
  induction letters generalizing tail with
  | nil =>
    have hopens := beginsOutside_opensText htail hrest
    rw [← hleft, List.nil_append, List.cons_append, beginsOutside_cons_iff, hc] at hopens
    cases hopens
  | cons d letters ih =>
    obtain ⟨hd, hletters⟩ := List.forall_mem_cons.1 hletters
    cases tail with
    | nil =>
      rw [List.nil_append] at hleft
      rw [← hleft, List.cons_append, List.cons_append, beginsOutside_cons_iff,
        continuesIdent_eq_false_iff, hd] at hrest
      cases hrest.1
    | cons e tail =>
      obtain ⟨-, htail⟩ := List.forall_mem_cons.1 htail
      exact ih hletters htail (List.cons.inj hleft).2

theorem beginsQuoted_eq_false {x rest : List Char} (hx : IsIdentifier x)
    (hrest : BeginsOutside continuesIdent rest) : beginsQuoted (x ++ rest) = false := by
  cases hx with
  | plain h =>
    obtain ⟨c, tail, rfl, -, htail⟩ := h
    have hopens : (["r\"", "r#\"", "r##", "b\"", "b'", "br\"", "br#", "c\"", "cr\"", "cr#"].all
        fun start => (start.toList.tail.dropWhile isIdentContinue).head?.any opensText) = true := by
      decide +kernel
    refine Bool.eq_false_iff.2 fun hquoted => ?_
    obtain ⟨start, hstart, hbegins⟩ := List.any_eq_true.1 hquoted
    obtain ⟨d, hd, hopen⟩ := (Option.any_eq_true _ _).1 (List.all_eq_true.1 hopens start hstart)
    obtain ⟨more, hmore⟩ := List.head?_eq_some_iff.1 hd
    obtain ⟨left, hleft⟩ := List.isPrefixOf_iff_prefix.1 hbegins
    have hletters := List.all_eq_true.1
      (List.all_takeWhile (p := isIdentContinue) (l := start.toList.tail))
    have hprefix : start.toList.tail <+: tail ++ rest := by
      cases hchars : start.toList with
      | nil => exact List.nil_prefix
      | cons d chars =>
        rw [hchars, List.cons_append, List.cons_append] at hleft
        exact ⟨left, (List.cons.inj hleft).2⟩
    rw [← List.takeWhile_append_dropWhile (p := isIdentContinue) (l := start.toList.tail),
      hmore] at hprefix
    exact not_isPrefix_of_opensText hletters hopen htail hrest hprefix
  | @raw name h hraw =>
    obtain ⟨c, tail, rfl, hc, -⟩ := h
    have hquote : ('"' == c) = false := beq_false_of_ne (ne_of_isIdentStart hc (by decide)).symm
    have hhash : ('#' == c) = false := beq_false_of_ne (ne_of_isIdentStart hc (by decide)).symm
    simp [beginsQuoted, List.isPrefixOf, hquote, hhash]

theorem IsIdentifier.exists_cons {x : List Char} (hx : IsIdentifier x) :
    ∃ c tail, x = c :: tail ∧ isIdentStart c = true := by
  cases hx with
  | plain h =>
    obtain ⟨c, tail, rfl, hc, -⟩ := h
    exact ⟨c, tail, rfl, hc⟩
  | @raw name h hraw => exact ⟨'r', '#' :: name, rfl, by decide +kernel⟩

theorem readLeaf?_append {x rest : List Char} (hx : IsIdentifier x)
    (hrest : BeginsOutside continuesIdent rest) :
    readLeaf? (x ++ rest) = some (.ident (String.ofList x), rest) := by
  have hliteral : readLiteral? (x ++ rest) = none := by
    rw [readLiteral?, afterLiteral?_eq_none hx hrest]
    rfl
  obtain ⟨c, tail, hcons, hc⟩ := hx.exists_cons
  have hmark : readMark? (x ++ rest) = none := by
    have hmarks : (marks.all nameless.contains) = true := by decide
    rw [hcons, List.cons_append]
    refine readMark?_eq_none (fun hmem => ?_) _
    exact ne_of_isIdentStart hc (List.contains_iff_mem.1 (List.all_eq_true.1 hmarks c hmem)) rfl
  have hfailure : failureText.isPrefixOf (x ++ rest) = false := by
    have hparen : ('(' == c) = false :=
      beq_false_of_ne (ne_of_isIdentStart hc (by decide)).symm
    have hchars : failureText = '(' :: "/*ERROR*/)".toList := by decide
    rw [hcons, hchars, List.cons_append, List.isPrefixOf, hparen, Bool.false_and]
  unfold readLeaf?
  rw [hliteral, hmark, hfailure, beginsQuoted_eq_false hx hrest, readIdent?_append hx hrest]
  rfl

theorem isIdentifier_of_readLeaf? {cs rest : List Char} {name : String}
    (h : readLeaf? cs = some (.ident name, rest)) :
    ∃ x, IsIdentifier x ∧ cs = x ++ rest ∧ name = String.ofList x := by
  unfold readLeaf? at h
  split at h
  · cases h
  split at h
  · next r hmark =>
    obtain rfl := Option.some.inj h
    obtain ⟨c, joint, hpunct⟩ := exists_punct_of_readMark? hmark
    cases hpunct
  split at h
  · cases h
  split at h
  · cases h
  · obtain ⟨⟨x, left⟩, hread, heq⟩ := Option.map_eq_some_iff.1 h
    obtain ⟨hx, rfl⟩ := isIdentifier_of_readIdent? hread
    cases heq
    exact ⟨x, hx, rfl, rfl⟩

end Source

end Criteria
