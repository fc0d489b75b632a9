import Criteria.Proofs.Json.Reading

/-!
# Only spellings are read

The other direction: an intact value that a text is read as is spelled by it.  Together with the
first direction, a text spells a value if and only if it is read as that value and nothing in the
value is broken (`paddedAs_iff`).
-/

namespace Criteria.Json

/-! ## Numbers -/

theorem takeDigits_eq {cs ds rest : List Char} (h : takeDigits cs = (ds, rest)) :
    (∀ c ∈ ds, c.isDigit = true) ∧ cs = ds ++ rest := by
  obtain ⟨rfl, rfl⟩ := Prod.mk.inj h
  exact ⟨List.all_eq_true.1 List.all_takeWhile, List.takeWhile_append_dropWhile.symm⟩

theorem isWhole_of_readWhole? {cs whole rest : List Char}
    (h : readWhole? cs = some (whole, rest)) : Numeral.IsWhole whole ∧ cs = whole ++ rest := by
  unfold readWhole? at h
  split at h
  · cases h
  · next heq =>
    cases h
    exact ⟨.inl rfl, (takeDigits_eq heq).2⟩
  · cases h
  · next hnil hlone hzero heq =>
    cases h
    obtain ⟨hall, hcs⟩ := takeDigits_eq heq
    refine ⟨.inr ⟨⟨hnil, hall⟩, fun hhead => ?_⟩, hcs⟩
    obtain ⟨ds, rfl⟩ := List.head?_eq_some_iff.1 hhead
    exact hzero ds rfl

theorem fractionSpeltAs_of_readFraction? {cs rest : List Char} {fraction : Option (List Char)}
    (h : readFraction? cs = some (fraction, rest)) :
    ∃ fs, Numeral.FractionSpeltAs fraction fs ∧ cs = fs ++ rest := by
  unfold readFraction? at h
  split at h
  · split at h
    · cases h
    · next hnil heq =>
      cases h
      obtain ⟨hall, hcs⟩ := takeDigits_eq heq
      exact ⟨_, .point ⟨hnil, hall⟩, by rw [hcs, List.cons_append]⟩
  · cases h
    exact ⟨[], .absent, rfl⟩

theorem isDigits_of_readExponentDigits? {negative : Bool} {cs rest : List Char}
    {exponent : Option (Bool × List Char)}
    (h : readExponentDigits? negative cs = some (exponent, rest)) :
    ∃ ds, exponent = some (negative, ds) ∧ IsDigits ds ∧ cs = ds ++ rest := by
  unfold readExponentDigits? at h
  split at h
  · cases h
  · next hnil heq =>
    cases h
    obtain ⟨hall, hcs⟩ := takeDigits_eq heq
    exact ⟨_, rfl, ⟨hnil, hall⟩, hcs⟩

theorem exponentSpeltAs_of_readExponent? {cs rest : List Char}
    {exponent : Option (Bool × List Char)} (h : readExponent? cs = some (exponent, rest)) :
    ∃ es, Numeral.ExponentSpeltAs exponent es ∧ cs = es ++ rest := by
  cases cs with
  | nil =>
    cases h
    exact ⟨[], .absent, rfl⟩
  | cons c cs =>
    by_cases hletter : c = 'e' ∨ c = 'E'
    · have hread : ∃ negative sign ds, Numeral.SignSpeltAs negative sign ∧
          exponent = some (negative, ds) ∧ IsDigits ds ∧ cs = sign ++ (ds ++ rest) := by
        simp only [readExponent?, if_pos hletter] at h
        split at h
        · obtain ⟨ds, hds⟩ := isDigits_of_readExponentDigits? h
          exact ⟨true, ['-'], ds, .minus, by simpa using hds⟩
        · obtain ⟨ds, hds⟩ := isDigits_of_readExponentDigits? h
          exact ⟨false, ['+'], ds, .plus, by simpa using hds⟩
        · obtain ⟨ds, hds⟩ := isDigits_of_readExponentDigits? h
          exact ⟨false, [], ds, .bare, hds⟩
      obtain ⟨negative, sign, ds, hsign, rfl, hds, rfl⟩ := hread
      exact ⟨_, .letter hletter hsign hds, by simp⟩
    · simp only [readExponent?, if_neg hletter] at h
      cases h
      exact ⟨[], .absent, rfl⟩

theorem speltAs_of_readNumeral? {negative : Bool} {cs rest : List Char} {n : Numeral}
    (h : readNumeral? negative cs = some (n, rest)) :
    ∃ body, n.SpeltAs (Numeral.minus negative ++ body) ∧ cs = body ++ rest := by
  unfold readNumeral? at h
  simp only [Option.bind_eq_bind, Option.bind_eq_some_iff, Prod.exists] at h
  obtain ⟨whole, _, hwhole, fraction, _, hfraction, exponent, _, hexponent, heq⟩ := h
  cases heq
  obtain ⟨hw, rfl⟩ := isWhole_of_readWhole? hwhole
  obtain ⟨fs, hf, rfl⟩ := fractionSpeltAs_of_readFraction? hfraction
  obtain ⟨es, he, rfl⟩ := exponentSpeltAs_of_readExponent? hexponent
  exact ⟨whole ++ (fs ++ es), .parts hw hf he, by simp⟩

/-! ## Strings -/

theorem speltAs_of_readEscape? {cs rest : List Char} {unit : StringUnit}
    (h : readEscape? cs = some (unit, rest)) :
    ∃ es, unit.SpeltAs ('\\' :: es) ∧ cs = es ++ rest := by
  unfold readEscape? at h
  split at h
  -- four digits of a code; before them stand the eight letters, after them everything else
  case h_9 =>
    simp only [Option.bind_eq_bind, Option.bind_eq_some_iff] at h
    obtain ⟨w, ha, x, hb, y, hc, z, hd, heq⟩ := h
    cases heq
    exact ⟨_, .code ha hb hc hd, rfl⟩
  case h_10 => cases h
  all_goals
    cases h
    exact ⟨_, .short (by decide), rfl⟩

theorem unitsSpeltAs_of_readUnits? {cs rest : List Char} {units : List StringUnit}
    (h : readUnits? cs = some (units, rest)) :
    ∃ ds, UnitsSpeltAs units ds ∧ cs = ds ++ '"' :: rest := by
  fun_induction readUnits? cs generalizing units with
  | case1 => cases h
  | case2 cs =>
    cases h
    exact ⟨[], .nil, rfl⟩
  | case3 cs hnone => cases h
  | case4 cs unit cs' hescape hlt ih =>
    obtain ⟨⟨units, rest⟩, hunits, heq⟩ := Option.map_eq_some_iff.1 h
    cases heq
    obtain ⟨es, hunit, rfl⟩ := speltAs_of_readEscape? hescape
    obtain ⟨ds, hds, rfl⟩ := ih hunits
    exact ⟨_, .cons hunit hds, by simp⟩
  | case5 c cs hquote hslash hcontrol => cases h
  | case6 c cs hquote hslash hcontrol ih =>
    obtain ⟨⟨units, rest⟩, hunits, heq⟩ := Option.map_eq_some_iff.1 h
    cases heq
    obtain ⟨ds, hds, rfl⟩ := ih hunits
    exact ⟨_, .cons (.plain hquote hslash (Nat.not_lt.1 hcontrol)) hds, rfl⟩

/-! ## Values -/

theorem exists_blanks (cs : List Char) : ∃ b, Blank b ∧ cs = b ++ skipBlanks cs :=
  ⟨cs.takeWhile isBlank, List.all_eq_true.1 List.all_takeWhile,
    List.takeWhile_append_dropWhile.symm⟩

theorem exists_blanks_before {c : Char} {cs rest : List Char} (h : skipBlanks cs = c :: rest) :
    ∃ b, Blank b ∧ cs = b ++ c :: rest :=
  h ▸ exists_blanks cs

theorem exists_paddedAs {j : Json} {cs mid rest : List Char} {c : Char}
    (h : ∃ a body, Blank a ∧ j.SpeltAs body ∧ cs = a ++ (body ++ mid))
    (hmid : skipBlanks mid = c :: rest) : ∃ ds, j.PaddedAs ds ∧ cs = ds ++ c :: rest := by
  obtain ⟨a, body, ha, hbody, rfl⟩ := h
  obtain ⟨b, hb, rfl⟩ := exists_blanks_before hmid
  exact ⟨_, .pad ha hbody hb, by simp⟩

theorem eq_append_of_afterWord? {word cs rest : List Char}
    (h : afterWord? word cs = some rest) : cs = word ++ rest := by
  fun_induction afterWord? word cs with
  | case1 cs =>
    cases h
    rfl
  | case2 => cases h
  | case3 word w cs ih => rw [List.cons_append, ih h]
  | case4 => cases h

theorem eq_some_of_orBroken {α : Type} {f : α → Json} {found : Option (α × List Char)} {j : Json}
    {rest : List Char} (h : orBroken f found = (j, rest)) (hj : j.isIntact = true) :
    ∃ x, found = some (x, rest) ∧ j = f x := by
  cases found with
  | none =>
    cases h
    cases hj
  | some found =>
    obtain ⟨x, rest⟩ := found
    cases h
    exact ⟨x, rfl, rfl⟩

theorem eq_append_of_readWord {word cs rest : List Char} {value j : Json}
    (h : readWord word value cs = (j, rest)) (hj : j.isIntact = true) :
    j = value ∧ cs = word ++ rest := by
  obtain ⟨_, hfound, rfl⟩ := eq_some_of_orBroken h hj
  obtain ⟨rest', hafter, heq⟩ := Option.map_eq_some_iff.1 hfound
  cases heq
  exact ⟨rfl, eq_append_of_afterWord? hafter⟩

theorem speltAs_of_readString? {cs rest : List Char} {s : Option String}
    (h : readString? cs = some (s, rest)) :
    ∃ body, (Json.string s).SpeltAs ('"' :: body) ∧ cs = body ++ rest := by
  obtain ⟨⟨units, rest⟩, hunits, heq⟩ := Option.map_eq_some_iff.1 h
  cases heq
  obtain ⟨ds, hds, rfl⟩ := unitsSpeltAs_of_readUnits? hunits
  exact ⟨ds ++ ['"'], .string hds, by simp⟩

mutual

/-- An intact value is spelled by what its reader took. -/
theorem speltAs_of_readValue {fuel : Nat} {cs rest : List Char} {j : Json}
    (h : readValue fuel cs = (j, rest)) (hj : j.isIntact = true) :
    ∃ a body, Blank a ∧ j.SpeltAs body ∧ cs = a ++ (body ++ rest) := by
  match fuel with
  | 0 =>
    rw [readValue] at h
    cases h
    cases hj
  | fuel + 1 =>
    obtain ⟨a, ha, hcs⟩ := exists_blanks cs
    have hbody : ∃ body, j.SpeltAs body ∧ skipBlanks cs = body ++ rest := by
      -- one case for each character that a value can begin with
      rw [readValue] at h
      split at h
      · cases h
        cases hj
      · next heq =>
        obtain ⟨rfl, rfl⟩ := eq_append_of_readWord h hj
        exact ⟨_, .null, heq⟩
      · next heq =>
        obtain ⟨rfl, rfl⟩ := eq_append_of_readWord h hj
        exact ⟨_, .boolTrue, heq⟩
      · next heq =>
        obtain ⟨rfl, rfl⟩ := eq_append_of_readWord h hj
        exact ⟨_, .boolFalse, heq⟩
      · next heq =>
        obtain ⟨s, hread, rfl⟩ := eq_some_of_orBroken h hj
        obtain ⟨body, hs, rfl⟩ := speltAs_of_readString? hread
        exact ⟨_, hs, heq⟩
      · next heq =>
        obtain ⟨n, hread, rfl⟩ := eq_some_of_orBroken h hj
        obtain ⟨body, hn, rfl⟩ := speltAs_of_readNumeral? hread
        exact ⟨_, .number hn, heq⟩
      · next heq =>
        split at h
        · next hnil =>
          cases h
          obtain ⟨b, hb, rfl⟩ := exists_blanks_before hnil
          exact ⟨_, .emptyArray hb, by simp [heq]⟩
        · rw [readItems_skipBlanks] at h
          cases h
          obtain ⟨body, hitems, hbody⟩ := speltAs_of_readItems rfl hj
          exact ⟨_, .array hitems, by simp [heq, ← hbody]⟩
      · next heq =>
        split at h
        · next hnil =>
          cases h
          obtain ⟨b, hb, rfl⟩ := exists_blanks_before hnil
          exact ⟨_, .emptyObject hb, by simp [heq]⟩
        · rw [readMembers_skipBlanks] at h
          cases h
          obtain ⟨body, hmembers, hbody⟩ := speltAs_of_readMembers rfl hj
          exact ⟨_, .object hmembers, by simp [heq, ← hbody]⟩
      · next heq =>
        split at h
        · obtain ⟨n, hread, rfl⟩ := eq_some_of_orBroken h hj
          obtain ⟨body, hn, hbody⟩ := speltAs_of_readNumeral? hread
          exact ⟨_, .number hn, heq.trans hbody⟩
        · cases h
          cases hj
    obtain ⟨body, hbody, hskip⟩ := hbody
    exact ⟨a, body, ha, hbody, hskip ▸ hcs⟩

theorem speltAs_of_readItems {fuel : Nat} {cs rest : List Char} {items : Items}
    (h : readItems fuel cs = (items, rest)) (hitems : items.isIntact = true) :
    ∃ body, items.SpeltAs body ∧ cs = body ++ ']' :: rest := by
  match fuel with
  | 0 =>
    rw [readItems] at h
    cases h
    cases hitems
  | fuel + 1 =>
    rw [readItems] at h
    split at h
    next item mid hitem =>
    split at h
    · next hclose =>
      cases h
      obtain ⟨hfirst, -⟩ := Bool.and_eq_true_iff.1 hitems
      obtain ⟨ds, hds, rfl⟩ := exists_paddedAs (speltAs_of_readValue hitem hfirst) hclose
      exact ⟨ds, .last hds, rfl⟩
    · next hcomma =>
      cases h
      obtain ⟨hfirst, hmore⟩ := Bool.and_eq_true_iff.1 hitems
      obtain ⟨ds, hds, rfl⟩ := exists_paddedAs (speltAs_of_readValue hitem hfirst) hcomma
      obtain ⟨es, hes, hrest⟩ := speltAs_of_readItems rfl hmore
      exact ⟨_, .cons hds hes, by simp [← hrest]⟩
    · cases h
      simp [Items.isIntact, Json.isIntact] at hitems

theorem speltAs_of_readMembers {fuel : Nat} {cs rest : List Char} {members : Members}
    (h : readMembers fuel cs = (members, rest)) (hmembers : members.isIntact = true) :
    ∃ body, members.SpeltAs body ∧ cs = body ++ '}' :: rest := by
  match fuel with
  | 0 =>
    rw [readMembers] at h
    cases h
    cases hmembers
  | fuel + 1 =>
    rw [readMembers] at h
    split at h
    · next key mid hkey =>
      split at h
      · next hcolon =>
        obtain ⟨ks, hks, rfl⟩ := exists_paddedAs (speltAs_of_readValue hkey rfl) hcolon
        split at h
        next value mid hvalue =>
        split at h
        · next hclose =>
          cases h
          simp only [Members.isIntact, Bool.and_true, Bool.and_eq_true_iff] at hmembers
          obtain ⟨ds, hds, rfl⟩ := exists_paddedAs (speltAs_of_readValue hvalue hmembers.2) hclose
          exact ⟨_, .last hks hds, by simp⟩
        · next hcomma =>
          cases h
          simp only [Members.isIntact, Bool.and_eq_true_iff] at hmembers
          obtain ⟨⟨-, hfirst⟩, hmore⟩ := hmembers
          obtain ⟨ds, hds, rfl⟩ := exists_paddedAs (speltAs_of_readValue hvalue hfirst) hcomma
          obtain ⟨es, hes, hrest⟩ := speltAs_of_readMembers rfl hmore
          exact ⟨_, .cons hks hds hes, by simp [← hrest]⟩
        · cases h
          simp [Members.isIntact, Json.isIntact] at hmembers
      · cases h
        simp [Members.isIntact, Json.isIntact] at hmembers
    · cases h
      simp [Members.isIntact, Json.isIntact] at hmembers

end

/-! ## Whole texts -/

mutual

theorem isIntact_of_speltAs {j : Json} {cs : List Char} (h : j.SpeltAs cs) :
    j.isIntact = true := by
  match h with
  | .null | .boolTrue | .boolFalse | .number _ | .string _ | .emptyArray _ | .emptyObject _ => rfl
  | .array hitems => exact isIntact_of_speltAs_items hitems
  | .object hmembers => exact isIntact_of_speltAs_members hmembers

theorem isIntact_of_paddedAs {j : Json} {cs : List Char} (h : j.PaddedAs cs) :
    j.isIntact = true := by
  match h with
  | .pad _ hj _ => exact isIntact_of_speltAs hj

theorem isIntact_of_speltAs_items {items : Items} {cs : List Char} (h : items.SpeltAs cs) :
    items.isIntact = true := by
  match h with
  | .last hitem => simp [Items.isIntact, isIntact_of_paddedAs hitem]
  | .cons hitem hrest =>
    simp [Items.isIntact, isIntact_of_paddedAs hitem, isIntact_of_speltAs_items hrest]

theorem isIntact_of_speltAs_members {members : Members} {cs : List Char}
    (h : members.SpeltAs cs) : members.isIntact = true := by
  match h with
  | .last _ hvalue => simp [Members.isIntact, Json.isIntact, isIntact_of_paddedAs hvalue]
  | .cons _ hvalue hrest =>
    simp [Members.isIntact, Json.isIntact, isIntact_of_paddedAs hvalue,
      isIntact_of_speltAs_members hrest]

end

/-- **What is read is what is spelled.**  A text spells a value, with blanks around it, if and only
if it is read as that value, alone in the text, and the value is intact. -/
theorem paddedAs_iff {j : Json} {s : String} :
    j.PaddedAs s.toList ↔ read s = (j, true) ∧ j.isIntact = true := by
  constructor
  · exact fun h => ⟨read_of_paddedAs h, isIntact_of_paddedAs h⟩
  · rintro ⟨hread, hj⟩
    cases hvalue : readValue (2 * s.toList.length + 2) s.toList with
    | mk value rest =>
      simp only [read, hvalue, Prod.mk.injEq] at hread
      obtain ⟨rfl, halone⟩ := hread
      obtain ⟨a, body, ha, hbody, hcs⟩ := speltAs_of_readValue hvalue hj
      obtain ⟨b, hb, hrest⟩ := exists_blanks rest
      rw [List.isEmpty_iff.1 halone, List.append_nil] at hrest
      rw [hcs, hrest]
      exact .pad ha hbody hb

end Criteria.Json
