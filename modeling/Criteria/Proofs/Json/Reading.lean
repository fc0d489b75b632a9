import Criteria.Proofs.Json.Grammar
import Criteria.Proofs.Text.Delimited

/-!
# Every spelling is read

A text that spells a value is read as that value, alone in the text (`read_of_paddedAs`).  Each
reader is followed through a spelling with any rest behind it.  Most spellings say themselves where
they end; the end of a numeral is nowhere marked, so its reader stops there only if the rest does
not begin with a character that the numeral could go on with.

The characters of a text are fuel enough: every bracket, comma and colon pays for the step into the
part behind it.
-/

namespace Criteria

namespace Json

/-! ## Numbers -/

theorem takeDigits_append {ds rest : List Char} (hds : ∀ c ∈ ds, c.isDigit = true)
    (hrest : BeginsOutside Char.isDigit rest) : takeDigits (ds ++ rest) = (ds, rest) := by
  unfold takeDigits
  rw [takeWhile_append_eq hds hrest, dropWhile_append_eq hds hrest]

/-- The characters that a numeral could go on with before its exponent. -/
def continuesFraction (c : Char) : Bool :=
  c.isDigit || c == '.'

/-- The characters that a numeral could go on with. -/
def continuesNumeral (c : Char) : Bool :=
  continuesFraction c || c == 'e' || c == 'E'

theorem beginsOutside_fraction {cs : List Char} (h : BeginsOutside continuesNumeral cs) :
    BeginsOutside continuesFraction cs := by
  refine h.mono fun c hc => ?_
  simp only [continuesNumeral, Bool.or_eq_false_iff] at hc
  exact hc.1.1

theorem beginsOutside_digit {cs : List Char} (h : BeginsOutside continuesFraction cs) :
    BeginsOutside Char.isDigit cs :=
  h.mono fun _ hc => (Bool.or_eq_false_iff.1 hc).1

theorem readExponentDigits?_append {digits rest : List Char} (hdigits : IsDigits digits)
    (hrest : BeginsOutside Char.isDigit rest) (negative : Bool) :
    readExponentDigits? negative (digits ++ rest) = some (some (negative, digits), rest) := by
  obtain ⟨hne, hall⟩ := hdigits
  obtain ⟨d, ds, rfl⟩ := List.exists_cons_of_ne_nil hne
  unfold readExponentDigits?
  rw [takeDigits_append hall hrest]

theorem readExponent?_append {exponent : Option (Bool × List Char)} {es rest : List Char}
    (h : Numeral.ExponentSpeltAs exponent es) (hrest : BeginsOutside continuesNumeral rest) :
    readExponent? (es ++ rest) = some (exponent, rest) := by
  cases h with
  | absent =>
    cases rest with
    | nil => rfl
    | cons c rest =>
      have hc := beginsOutside_cons_iff.1 hrest
      simp only [continuesNumeral, Bool.or_eq_false_iff, beq_eq_false_iff_ne] at hc
      exact if_neg (by simp [hc])
  | letter hletter hsign hdigits =>
    have hdigit := beginsOutside_digit (beginsOutside_fraction hrest)
    have hread := readExponentDigits?_append hdigits hdigit
    show (if _ ∨ _ then _ else _) = _
    rw [if_pos hletter]
    cases hsign with
    | plus => exact hread false
    | minus => exact hread true
    | bare =>
      -- the first digit is no sign
      obtain ⟨hne, hall⟩ := hdigits
      obtain ⟨d, ds, rfl⟩ := List.exists_cons_of_ne_nil hne
      have hd := hall d List.mem_cons_self
      simp only [List.nil_append]
      split
      · next heq => cases (List.cons.inj heq).1; cases hd
      · next heq => cases (List.cons.inj heq).1; cases hd
      · exact hread false

theorem ExponentSpeltAs.beginsOutside {exponent : Option (Bool × List Char)} {es rest : List Char}
    (h : Numeral.ExponentSpeltAs exponent es) (hrest : BeginsOutside continuesNumeral rest) :
    BeginsOutside continuesFraction (es ++ rest) := by
  cases h with
  | absent => exact beginsOutside_fraction hrest
  | letter hletter _ _ =>
    rw [List.cons_append, beginsOutside_cons_iff]
    rcases hletter with rfl | rfl <;> rfl

theorem readFraction?_append {fraction : Option (List Char)} {fs rest : List Char}
    (h : Numeral.FractionSpeltAs fraction fs)
    (hrest : BeginsOutside continuesFraction rest) :
    readFraction? (fs ++ rest) = some (fraction, rest) := by
  cases h with
  | absent =>
    unfold readFraction?
    split
    · next heq =>
      rw [List.nil_append] at heq
      rw [heq, beginsOutside_cons_iff] at hrest
      cases hrest
    · rfl
  | @point digits hdigits =>
    obtain ⟨hne, hall⟩ := hdigits
    obtain ⟨d, ds, rfl⟩ := List.exists_cons_of_ne_nil hne
    have htake := takeDigits_append hall (beginsOutside_digit hrest)
    unfold readFraction?
    simp only [List.cons_append] at htake ⊢
    rw [htake]

theorem FractionSpeltAs.beginsOutside {fraction : Option (List Char)} {fs rest : List Char}
    (h : Numeral.FractionSpeltAs fraction fs)
    (hrest : BeginsOutside continuesFraction rest) :
    BeginsOutside Char.isDigit (fs ++ rest) := by
  cases h with
  | absent => exact beginsOutside_digit hrest
  | point _ => exact beginsOutside_cons_iff.2 rfl

theorem readWhole?_append {whole rest : List Char} (h : Numeral.IsWhole whole)
    (hrest : BeginsOutside Char.isDigit rest) :
    readWhole? (whole ++ rest) = some (whole, rest) := by
  unfold readWhole?
  rcases h with rfl | ⟨⟨hne, hall⟩, hzero⟩
  · rw [takeDigits_append (List.forall_mem_singleton.2 rfl) hrest]
    rfl
  · rw [takeDigits_append hall hrest]
    obtain ⟨d, ds, rfl⟩ := List.exists_cons_of_ne_nil hne
    split
    · next heq => cases heq
    · next heq => cases heq; exact absurd rfl hzero
    · next heq => cases heq; exact absurd rfl hzero
    · next heq => cases heq; rfl

theorem readNumeral?_append {whole fs es rest : List Char} {fraction : Option (List Char)}
    {exponent : Option (Bool × List Char)} (hwhole : Numeral.IsWhole whole)
    (hfraction : Numeral.FractionSpeltAs fraction fs)
    (hexponent : Numeral.ExponentSpeltAs exponent es)
    (hrest : BeginsOutside continuesNumeral rest) (negative : Bool) :
    readNumeral? negative (whole ++ (fs ++ (es ++ rest))) =
      some (⟨negative, whole, fraction, exponent⟩, rest) := by
  have hafter := ExponentSpeltAs.beginsOutside hexponent hrest
  unfold readNumeral?
  rw [readWhole?_append hwhole (FractionSpeltAs.beginsOutside hfraction hafter)]
  show (readFraction? (fs ++ (es ++ rest))).bind _ = _
  rw [readFraction?_append hfraction hafter]
  show (readExponent? (es ++ rest)).bind _ = _
  rw [readExponent?_append hexponent hrest]
  rfl

theorem IsWhole.exists_cons {whole : List Char} (h : Numeral.IsWhole whole) :
    ∃ d ds, whole = d :: ds ∧ d.isDigit = true := by
  rcases h with rfl | ⟨⟨hne, hall⟩, -⟩
  · exact ⟨'0', [], rfl, rfl⟩
  · obtain ⟨d, ds, rfl⟩ := List.exists_cons_of_ne_nil hne
    exact ⟨d, ds, rfl, hall d List.mem_cons_self⟩

/-! ## Strings -/

theorem readEscape?_letter {letter c : Char} (h : (letter, c) ∈ escapeLetters) (rest : List Char) :
    readEscape? (letter :: rest) = some (.char c, rest) := by
  simp only [escapeLetters, List.mem_cons, Prod.mk.injEq, List.not_mem_nil, or_false] at h
  rcases h with ⟨rfl, rfl⟩ | ⟨rfl, rfl⟩ | ⟨rfl, rfl⟩ | ⟨rfl, rfl⟩ | ⟨rfl, rfl⟩ | ⟨rfl, rfl⟩ |
    ⟨rfl, rfl⟩ | ⟨rfl, rfl⟩ <;> rfl

theorem readEscape?_code {a b c d : Char} {w x y z : Nat} (ha : hexValue? a = some w)
    (hb : hexValue? b = some x) (hc : hexValue? c = some y) (hd : hexValue? d = some z)
    (rest : List Char) :
    readEscape? ('u' :: a :: b :: c :: d :: rest) =
      some (.ofCode (((w * 16 + x) * 16 + y) * 16 + z), rest) := by
  unfold readEscape?
  simp only [ha, hb, hc, hd]
  rfl

theorem readUnits?_escape {cs rest : List Char} {unit : StringUnit}
    (h : readEscape? cs = some (unit, rest)) :
    readUnits? ('\\' :: cs) = (readUnits? rest).map fun r => (unit :: r.1, r.2) := by
  rw [readUnits?]
  split
  · next heq =>
    rw [h] at heq
    cases heq
  · next heq =>
    rw [h] at heq
    cases heq
    rfl

theorem readUnits?_unit {unit : StringUnit} {cs : List Char} (h : unit.SpeltAs cs)
    (rest : List Char) :
    readUnits? (cs ++ rest) = (readUnits? rest).map fun r => (unit :: r.1, r.2) := by
  cases h with
  | plain hquote hslash hcontrol =>
    rw [List.singleton_append, readUnits?]
    · exact if_neg (Nat.not_lt.2 hcontrol)
    · exact hquote
    · exact hslash
  | short hletter => exact readUnits?_escape (readEscape?_letter hletter rest)
  | code ha hb hc hd => exact readUnits?_escape (readEscape?_code ha hb hc hd rest)

theorem readUnits?_append {units : List StringUnit} {cs : List Char} (h : UnitsSpeltAs units cs)
    (rest : List Char) : readUnits? (cs ++ '"' :: rest) = some (units, rest) := by
  induction h with
  | nil => rw [List.nil_append, readUnits?]
  | cons hunit _ ih => rw [List.append_assoc, readUnits?_unit hunit, ih, Option.map_some]

/-! ## Blanks -/

theorem isBlank_iff {c : Char} :
    isBlank c = true ↔ c = ' ' ∨ c = '\t' ∨ c = '\n' ∨ c = '\r' := by
  simp only [isBlank, Bool.or_eq_true, beq_iff_eq, or_assoc]

theorem isBlank_of_isDigit {c : Char} (h : c.isDigit = true) : isBlank c = false := by
  refine Bool.eq_false_iff.2 fun hblank => ?_
  rcases isBlank_iff.1 hblank with rfl | rfl | rfl | rfl <;> cases h

theorem skipBlanks_append {a : List Char} (ha : Blank a) (cs : List Char) :
    skipBlanks (a ++ cs) = skipBlanks cs :=
  List.dropWhile_append_of_pos ha

theorem skipBlanks_of_beginsOutside {cs : List Char} (h : BeginsOutside isBlank cs) :
    skipBlanks cs = cs := by
  cases cs with
  | nil => rfl
  | cons c cs =>
    refine List.dropWhile_cons_of_neg ?_
    rw [beginsOutside_cons_iff.1 h]
    decide

theorem beginsOutside_skipBlanks (cs : List Char) : BeginsOutside isBlank (skipBlanks cs) := by
  induction cs with
  | nil => exact .nil isBlank
  | cons c cs ih =>
    unfold skipBlanks
    cases hc : isBlank c with
    | true => rwa [List.dropWhile_cons_of_pos hc]
    | false =>
      rw [List.dropWhile_cons_of_neg (by simp [hc])]
      exact beginsOutside_cons_iff.2 hc

theorem skipBlanks_skipBlanks (cs : List Char) : skipBlanks (skipBlanks cs) = skipBlanks cs :=
  skipBlanks_of_beginsOutside (beginsOutside_skipBlanks cs)

theorem readValue_skipBlanks (fuel : Nat) (cs : List Char) :
    readValue fuel (skipBlanks cs) = readValue fuel cs := by
  cases fuel with
  | zero => rw [readValue, readValue]
  | succ fuel => rw [readValue, readValue, skipBlanks_skipBlanks]

theorem readItems_skipBlanks (fuel : Nat) (cs : List Char) :
    readItems fuel (skipBlanks cs) = readItems fuel cs := by
  cases fuel with
  | zero => rw [readItems, readItems]
  | succ fuel => rw [readItems, readItems, readValue_skipBlanks]

theorem readMembers_skipBlanks (fuel : Nat) (cs : List Char) :
    readMembers fuel (skipBlanks cs) = readMembers fuel cs := by
  cases fuel with
  | zero => rw [readMembers, readMembers]
  | succ fuel => rw [readMembers, readMembers, readValue_skipBlanks]

/-! ## Values -/

theorem readValue_digit {d : Char} (hd : d.isDigit = true) (fuel : Nat) (cs : List Char) :
    readValue (fuel + 1) (d :: cs) = orBroken .number (readNumeral? false (d :: cs)) := by
  have hskip : skipBlanks (d :: cs) = d :: cs :=
    skipBlanks_of_beginsOutside (beginsOutside_cons_iff.2 (isBlank_of_isDigit hd))
  rw [readValue, hskip]
  split <;> rename_i heq <;> cases heq
  case h_9 => exact if_pos hd
  -- no digit begins anything else
  all_goals cases hd

theorem readValue_number {n : Numeral} {cs rest : List Char} (h : n.SpeltAs cs)
    (hrest : BeginsOutside continuesNumeral rest) (fuel : Nat) :
    readValue (fuel + 1) (cs ++ rest) = (.number n, rest) := by
  cases h with
  | @parts negative whole fs es fraction exponent hwhole hfraction hexponent =>
    have hread := readNumeral?_append hwhole hfraction hexponent hrest negative
    rw [List.append_assoc, List.append_assoc, List.append_assoc]
    cases negative with
    | true =>
      show orBroken .number (readNumeral? true (whole ++ (fs ++ (es ++ rest)))) = _
      rw [hread]
      rfl
    | false =>
      obtain ⟨d, ds, rfl, hd⟩ := IsWhole.exists_cons hwhole
      show readValue (fuel + 1) (d :: (ds ++ (fs ++ (es ++ rest)))) = _
      rw [readValue_digit hd]
      show orBroken .number (readNumeral? false (d :: ds ++ (fs ++ (es ++ rest)))) = _
      rw [hread]
      rfl

theorem readValue_string {units : List StringUnit} {cs : List Char} (h : UnitsSpeltAs units cs)
    (rest : List Char) (fuel : Nat) :
    readValue (fuel + 1) ('"' :: (cs ++ ['"']) ++ rest) =
      (.string ((joinUnits? units).map String.ofList), rest) := by
  show orBroken .string (readString? (cs ++ ['"'] ++ rest)) = _
  unfold readString?
  rw [List.append_assoc, List.singleton_append, readUnits?_append h]
  rfl

theorem readValue_bracket (fuel : Nat) (cs : List Char) :
    readValue (fuel + 1) ('[' :: cs) =
      match skipBlanks cs with
      | ']' :: rest => (.array .nil, rest)
      | rest => (.array (readItems fuel rest).1, (readItems fuel rest).2) := rfl

theorem readValue_brace (fuel : Nat) (cs : List Char) :
    readValue (fuel + 1) ('\x7b' :: cs) =
      match skipBlanks cs with
      | '\x7d' :: rest => (.object .nil, rest)
      | rest => (.object (readMembers fuel rest).1, (readMembers fuel rest).2) := rfl

theorem readValue_array {cs : List Char} (h : BeginsOutside (· == ']') (skipBlanks cs))
    (fuel : Nat) :
    readValue (fuel + 1) ('[' :: cs) = (.array (readItems fuel cs).1, (readItems fuel cs).2) := by
  rw [readValue_bracket, ← readItems_skipBlanks]
  split
  · next heq =>
    rw [heq, beginsOutside_cons_iff] at h
    cases h
  · rfl

theorem readValue_object {cs : List Char} (h : BeginsOutside (· == '\x7d') (skipBlanks cs))
    (fuel : Nat) :
    readValue (fuel + 1) ('\x7b' :: cs) =
      (.object (readMembers fuel cs).1, (readMembers fuel cs).2) := by
  rw [readValue_brace, ← readMembers_skipBlanks]
  split
  · next heq =>
    rw [heq, beginsOutside_cons_iff] at h
    cases h
  · rfl

/-- No value begins with a blank or a closing bracket. -/
theorem SpeltAs.exists_cons {j : Json} {cs : List Char} (h : j.SpeltAs cs) :
    ∃ c ds, cs = c :: ds ∧ isBlank c = false ∧ c ≠ ']' ∧ c ≠ '\x7d' := by
  cases h with
  | null | boolTrue | boolFalse | string _ | emptyArray _ | array _ | emptyObject _ | object _ =>
    exact ⟨_, _, rfl, by decide⟩
  | number hn =>
    cases hn with
    | @parts negative whole fs es _ _ hwhole _ _ =>
      cases negative with
      | true => exact ⟨'-', _, rfl, by decide⟩
      | false =>
        obtain ⟨d, ds, rfl, hd⟩ := IsWhole.exists_cons hwhole
        refine ⟨d, _, rfl, isBlank_of_isDigit hd, ?_, ?_⟩
        · rintro rfl
          cases hd
        · rintro rfl
          cases hd

theorem PaddedAs.beginsOutside {j : Json} {cs : List Char} (h : j.PaddedAs cs) {close : Char}
    (hclose : close = ']' ∨ close = '\x7d') (rest : List Char) :
    BeginsOutside (· == close) (skipBlanks (cs ++ rest)) := by
  cases h with
  | @pad _ a cs b ha hj hb =>
    obtain ⟨c, ds, rfl, hblank, hbracket, hbrace⟩ := hj.exists_cons
    have hskip : skipBlanks (c :: (ds ++ b ++ rest)) = c :: (ds ++ b ++ rest) :=
      skipBlanks_of_beginsOutside (beginsOutside_cons_iff.2 hblank)
    rw [List.append_assoc, skipBlanks_append ha, List.cons_append, List.cons_append, hskip,
      beginsOutside_cons_iff]
    rcases hclose with rfl | rfl
    · exact beq_false_of_ne hbracket
    · exact beq_false_of_ne hbrace

theorem SpeltAs.beginsOutside_items {items : Items} {cs : List Char} (h : items.SpeltAs cs)
    (rest : List Char) : BeginsOutside (· == ']') (skipBlanks (cs ++ rest)) := by
  cases h with
  | last hitem => exact hitem.beginsOutside (.inl rfl) rest
  | cons hitem _ =>
    rw [List.append_assoc]
    exact hitem.beginsOutside (.inl rfl) _

theorem SpeltAs.beginsOutside_members {members : Members} {cs : List Char}
    (h : members.SpeltAs cs) (rest : List Char) :
    BeginsOutside (· == '\x7d') (skipBlanks (cs ++ rest)) := by
  cases h with
  | last hkey _ | cons hkey _ _ =>
    rw [List.append_assoc]
    exact hkey.beginsOutside (.inr rfl) _

/-- What follows the last value of an array or an object, or comes between two. -/
theorem skipBlanks_append_cons {b : List Char} (hb : Blank b) {c : Char} (hc : isBlank c = false)
    (rest : List Char) : skipBlanks (b ++ c :: rest) = c :: rest := by
  rw [skipBlanks_append hb]
  exact skipBlanks_of_beginsOutside (beginsOutside_cons_iff.2 hc)

theorem readItems_last {fuel : Nat} {cs b rest : List Char} {item : Json} (hb : Blank b)
    (h : readValue fuel cs = (item, b ++ ']' :: rest)) :
    readItems (fuel + 1) cs = (.cons item .nil, rest) := by
  rw [readItems, h]
  simp only [skipBlanks_append_cons hb (show isBlank ']' = false by decide)]

theorem readItems_more {fuel : Nat} {cs b rest rest' : List Char} {item : Json} {items : Items}
    (hb : Blank b) (h : readValue fuel cs = (item, b ++ ',' :: rest))
    (hmore : readItems fuel rest = (items, rest')) :
    readItems (fuel + 1) cs = (.cons item items, rest') := by
  rw [readItems, h]
  simp only [skipBlanks_append_cons hb (show isBlank ',' = false by decide), hmore]

theorem readMembers_last {fuel : Nat} {cs a b rest rest' : List Char} {key : Option String}
    {value : Json} (ha : Blank a) (hkey : readValue fuel cs = (.string key, a ++ ':' :: rest))
    (hb : Blank b) (hvalue : readValue fuel rest = (value, b ++ '\x7d' :: rest')) :
    readMembers (fuel + 1) cs = (.cons (.string key) value .nil, rest') := by
  rw [readMembers, hkey]
  simp only [skipBlanks_append_cons ha (show isBlank ':' = false by decide), hvalue,
    skipBlanks_append_cons hb (show isBlank '\x7d' = false by decide)]

theorem readMembers_more {fuel : Nat} {cs a b rest rest' rest'' : List Char}
    {key : Option String} {value : Json} {members : Members} (ha : Blank a)
    (hkey : readValue fuel cs = (.string key, a ++ ':' :: rest)) (hb : Blank b)
    (hvalue : readValue fuel rest = (value, b ++ ',' :: rest'))
    (hmore : readMembers fuel rest' = (members, rest'')) :
    readMembers (fuel + 1) cs = (.cons (.string key) value members, rest'') := by
  rw [readMembers, hkey]
  simp only [skipBlanks_append_cons ha (show isBlank ':' = false by decide), hvalue,
    skipBlanks_append_cons hb (show isBlank ',' = false by decide), hmore]

/-- The characters that could still belong to the text of a value or to the blanks after it. -/
def continuesPadded (c : Char) : Bool :=
  isBlank c || continuesNumeral c

theorem beginsOutside_blanks {b rest : List Char} (hb : Blank b)
    (hrest : BeginsOutside continuesPadded rest) :
    BeginsOutside continuesNumeral (b ++ rest) := by
  cases b with
  | nil => exact hrest.mono fun c hc => (Bool.or_eq_false_iff.1 hc).2
  | cons c b =>
    rw [List.cons_append, beginsOutside_cons_iff]
    rcases isBlank_iff.1 (hb c List.mem_cons_self) with rfl | rfl | rfl | rfl <;> rfl

theorem readValue_emptyArray {cs : List Char} (hcs : Blank cs) (fuel : Nat) (rest : List Char) :
    readValue (fuel + 1) ('[' :: (cs ++ ']' :: rest)) = (.array .nil, rest) := by
  rw [readValue_bracket, skipBlanks_append_cons hcs (by decide)]
  rfl

theorem readValue_emptyObject {cs : List Char} (hcs : Blank cs) (fuel : Nat) (rest : List Char) :
    readValue (fuel + 1) ('\x7b' :: (cs ++ '\x7d' :: rest)) = (.object .nil, rest) := by
  rw [readValue_brace, skipBlanks_append_cons hcs (by decide)]
  rfl

mutual

/-- A value is read off any of its spellings, up to where it ends.  Every step into the text of a
part leaves fuel for at least the characters of that part. -/
theorem readValue_append {j : Json} {cs : List Char} (h : j.SpeltAs cs) (fuel : Nat)
    (rest : List Char) (hfuel : cs.length ≤ fuel) (hrest : BeginsOutside continuesNumeral rest) :
    readValue fuel (cs ++ rest) = (j, rest) := by
  match fuel, h with
  | 0, h =>
    obtain ⟨c, ds, rfl, -⟩ := h.exists_cons
    cases hfuel
  | fuel + 1, .null => rfl
  | fuel + 1, .boolTrue => rfl
  | fuel + 1, .boolFalse => rfl
  | fuel + 1, .number hn => exact readValue_number hn hrest fuel
  | fuel + 1, .string hunits => exact readValue_string hunits rest fuel
  | fuel + 1, .emptyArray hcs =>
    rw [List.cons_append, List.append_assoc]
    exact readValue_emptyArray hcs fuel rest
  | fuel + 1, .emptyObject hcs =>
    rw [List.cons_append, List.append_assoc]
    exact readValue_emptyObject hcs fuel rest
  | fuel + 1, .array hitems =>
    simp only [List.length_cons, List.length_append, List.length_nil] at hfuel
    have hread := readItems_append hitems fuel rest (by omega)
    rw [List.cons_append, List.append_assoc, List.singleton_append,
      readValue_array (SpeltAs.beginsOutside_items hitems _), hread]
  | fuel + 1, .object hmembers =>
    simp only [List.length_cons, List.length_append, List.length_nil] at hfuel
    have hread := readMembers_append hmembers fuel rest (by omega)
    rw [List.cons_append, List.append_assoc, List.singleton_append,
      readValue_object (SpeltAs.beginsOutside_members hmembers _), hread]

theorem readValue_padded {j : Json} {cs : List Char} (h : j.PaddedAs cs) (fuel : Nat)
    (rest : List Char) (hfuel : cs.length ≤ fuel) (hrest : BeginsOutside continuesPadded rest) :
    ∃ b, Blank b ∧ readValue fuel (cs ++ rest) = (j, b ++ rest) := by
  match h with
  | @PaddedAs.pad _ a cs b ha hj hb =>
    simp only [List.length_append] at hfuel
    have hread := readValue_append hj fuel (b ++ rest) (by omega) (beginsOutside_blanks hb hrest)
    refine ⟨b, hb, ?_⟩
    rw [← hread, ← readValue_skipBlanks, List.append_assoc, skipBlanks_append ha,
      readValue_skipBlanks, List.append_assoc]

theorem readItems_append {items : Items} {cs : List Char} (h : items.SpeltAs cs) (fuel : Nat)
    (rest : List Char) (hfuel : cs.length + 1 ≤ fuel) :
    readItems fuel (cs ++ ']' :: rest) = (items, rest) := by
  obtain ⟨fuel, rfl⟩ := Nat.exists_eq_add_of_le' (Nat.le_trans (Nat.le_add_left 1 _) hfuel)
  match h with
  | .last hitem =>
    obtain ⟨b, hb, hread⟩ := readValue_padded hitem fuel (']' :: rest) (by omega)
      (beginsOutside_cons_iff.2 rfl)
    exact readItems_last hb hread
  | @Items.SpeltAs.cons _ _ cs ds hitem hmore =>
    simp only [List.length_append, List.length_cons] at hfuel
    obtain ⟨b, hb, hread⟩ := readValue_padded hitem fuel (',' :: (ds ++ ']' :: rest)) (by omega)
      (beginsOutside_cons_iff.2 rfl)
    rw [List.append_assoc, List.cons_append]
    exact readItems_more hb hread (readItems_append hmore fuel rest (by omega))

theorem readMembers_append {members : Members} {cs : List Char} (h : members.SpeltAs cs)
    (fuel : Nat) (rest : List Char) (hfuel : cs.length + 1 ≤ fuel) :
    readMembers fuel (cs ++ '\x7d' :: rest) = (members, rest) := by
  obtain ⟨fuel, rfl⟩ := Nat.exists_eq_add_of_le' (Nat.le_trans (Nat.le_add_left 1 _) hfuel)
  match h with
  | @Members.SpeltAs.last _ _ ks cs hkey hvalue =>
    simp only [List.length_append, List.length_cons] at hfuel
    obtain ⟨a, ha, hreadKey⟩ := readValue_padded hkey fuel (':' :: (cs ++ '\x7d' :: rest))
      (by omega) (beginsOutside_cons_iff.2 rfl)
    obtain ⟨b, hb, hread⟩ := readValue_padded hvalue fuel ('\x7d' :: rest) (by omega)
      (beginsOutside_cons_iff.2 rfl)
    rw [List.append_assoc, List.cons_append]
    exact readMembers_last ha hreadKey hb hread
  | @Members.SpeltAs.cons _ _ _ ks cs ds hkey hvalue hmore =>
    simp only [List.length_append, List.length_cons] at hfuel
    obtain ⟨a, ha, hreadKey⟩ := readValue_padded hkey fuel
      (':' :: (cs ++ ',' :: (ds ++ '\x7d' :: rest))) (by omega) (beginsOutside_cons_iff.2 rfl)
    obtain ⟨b, hb, hread⟩ := readValue_padded hvalue fuel (',' :: (ds ++ '\x7d' :: rest))
      (by omega) (beginsOutside_cons_iff.2 rfl)
    rw [List.append_assoc, List.cons_append, List.append_assoc, List.cons_append]
    exact readMembers_more ha hreadKey hb hread (readMembers_append hmore fuel rest (by omega))

end

/-- **A text is read as the value that it spells**, whichever way it spells it. -/
theorem read_of_paddedAs {j : Json} {s : String} (h : j.PaddedAs s.toList) :
    read s = (j, true) := by
  obtain ⟨b, hb, hread⟩ := readValue_padded h (2 * s.toList.length + 2) [] (by omega) (.nil _)
  have hskip : skipBlanks b = [] := by
    have := skipBlanks_append hb []
    rwa [List.append_nil] at this
  rw [List.append_nil, List.append_nil] at hread
  unfold read
  simp only [hread, hskip]
  rfl

end Json

end Criteria
