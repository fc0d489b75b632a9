import Criteria.Proofs.Text.Quoted
import Criteria.Source.Literal

/-!
# Text literals read back

The literal that is written for a text means this text: read character by character, each of its
escapes gives back the character that it was written for.

* `Literal.meaning?_ofText`: the literal of a text, with its quotes.
-/

namespace Criteria.Source

open Text (hexDigits codePointEscape escapeChar escaping_escapeChar shortEscapes)

/-- What is read after a character that has been read. -/
def prefixed (c : Char) (read : Option (List Char × List Char)) : Option (List Char × List Char) :=
  read.map fun r => (c :: r.1, r.2)

section

variable {place next : Place} {c e : Char} (rest : List Char)

theorem readCooked?_go (h : place.move? .text c = some (.go next)) :
    readCooked? .text place (c :: rest) = readCooked? .text next rest := by
  rw [readCooked?, h]

theorem readCooked?_emit (h : place.move? .text c = some (.emit e)) :
    readCooked? .text place (c :: rest) = prefixed e (readCooked? .text .plain rest) := by
  rw [readCooked?, h, prefixed]

end

/-! ## Escapes by code point -/

theorem hexDigit?_digitChar {d : Nat} (h : d < 16) : hexDigit? d.digitChar = some d := by
  have hall : ∀ d < 16, hexDigit? d.digitChar = some d := by decide
  exact hall d h

theorem charOfNat?_toNat (c : Char) : charOfNat? c.toNat = some c := by
  have hvalid : c.toNat.isValidChar := c.valid
  rw [charOfNat?, dif_pos hvalid]
  rfl

/-- A digit goes on with the number that was read so far. -/
theorem readCooked?_digit (value : Nat) {digits d : Nat} (hdigits : digits < 6) (hd : d < 16)
    (rest : List Char) :
    readCooked? .text (.point value digits) (d.digitChar :: rest) =
      readCooked? .text (.point (16 * value + d) (digits + 1)) rest := by
  apply readCooked?_go
  rw [Place.move?, hexDigit?_digitChar hd]
  exact if_pos hdigits

theorem readCooked?_hexDigits {n : Nat} (h : (hexDigits n).length ≤ 6) (rest : List Char) :
    readCooked? .text (.point 0 0) (hexDigits n ++ rest) =
      readCooked? .text (.point n (hexDigits n).length) rest := by
  induction n using Nat.strongRecOn generalizing rest with
  | ind n ih =>
    by_cases hlt : n < 16
    · rw [hexDigits, Nat.toDigits_of_lt_base hlt]
      exact (readCooked?_digit 0 (by decide) hlt rest).trans (by simp)
    · have hle : 16 ≤ n := Nat.le_of_not_lt hlt
      have hdigits : hexDigits n = hexDigits (n / 16) ++ [(n % 16).digitChar] :=
        Nat.toDigits_of_base_le (by decide) hle
      rw [hdigits, List.length_append] at h
      have hn : 16 * (n / 16) + n % 16 = n := Nat.div_add_mod n 16
      rw [hdigits, List.append_assoc, ih (n / 16) (by omega) (Nat.le_of_succ_le h),
        List.singleton_append, readCooked?_digit _ h (Nat.mod_lt n (by decide)), hn,
        List.length_append]
      rfl

theorem length_hexDigits_toNat (c : Char) : (hexDigits c.toNat).length ≤ 6 := by
  have hvalid : c.toNat.isValidChar := c.valid
  exact (Nat.length_toDigits_le_iff (by decide) (by decide)).2 (by omega)

theorem readCooked?_codePointEscape (c : Char) (rest : List Char) :
    readCooked? .text .plain (codePointEscape c ++ rest) =
      prefixed c (readCooked? .text .plain rest) := by
  have hdigits : (hexDigits c.toNat).length ≠ 0 :=
    Nat.ne_of_gt Nat.length_toDigits_pos
  have hclose : Place.move? .text (.point c.toNat (hexDigits c.toNat).length) '\x7d' =
      some (.emit c) := by
    have hbrace : hexDigit? '\x7d' = none := by decide
    simp [Place.move?, hbrace, hdigits, charOfNat?_toNat, Flavour.admitsPoint]
  rw [codePointEscape, List.append_assoc, List.append_assoc]
  calc readCooked? .text .plain ('\\' :: 'u' :: '\x7b' :: (hexDigits c.toNat ++ '\x7d' :: rest))
    _ = readCooked? .text (.point 0 0) (hexDigits c.toNat ++ '\x7d' :: rest) := by
      rw [readCooked?_go _ rfl, readCooked?_go _ rfl, readCooked?_go _ rfl]
    _ = readCooked? .text (.point c.toNat (hexDigits c.toNat).length) ('\x7d' :: rest) :=
      readCooked?_hexDigits (length_hexDigits_toNat c) _
    _ = prefixed c (readCooked? .text .plain rest) := readCooked?_emit rest hclose

/-! ## Texts -/

theorem move?_of_mem_shortEscapes {c k : Char} (h : (c, k) ∈ shortEscapes) :
    Place.move? .text .escape k = some (.emit c) := by
  have hall : ∀ p ∈ shortEscapes, p.2 ≠ 'x' ∧ p.2 ≠ 'u' ∧ p.2 ≠ '\n' ∧ p.2 ≠ '\r' ∧
      letterEscape? p.2 = some p.1 ∧ Flavour.text.admitsByte p.1.toNat = true := by decide
  obtain ⟨hbyte, hpoint, hline, hreturn, hletter, hadmits⟩ := hall (c, k) h
  simp [Place.move?, hbyte, hpoint, hline, hreturn, hletter, hadmits]

theorem readCooked?_escapeChar (c : Char) (rest : List Char) :
    readCooked? .text .plain (escapeChar c ++ rest) =
      prefixed c (readCooked? .text .plain rest) := by
  have hc := escaping_escapeChar c
  generalize hwritten : escapeChar c = written at hc
  cases hc with
  | plain hslash hquote =>
    -- a carriage return would not be read by itself
    have hreturn : c ≠ '\r' := by
      rintro rfl
      exact absurd hwritten (by decide)
    apply readCooked?_emit
    simp [Place.move?, Place.plainMove?, hreturn, hslash, hquote, Flavour.admitsChar]
  | short hk =>
    exact (readCooked?_go _ rfl).trans (readCooked?_emit rest (move?_of_mem_shortEscapes hk))
  | codePoint => exact readCooked?_codePointEscape c rest

/-- A NUL is written in two ways, which mean the same. -/
theorem readCooked?_escapeNul (cs rest : List Char) :
    readCooked? .text .plain (escapeLiteral ('\x00' :: cs) ++ rest) =
      prefixed '\x00' (readCooked? .text .plain (escapeLiteral cs ++ rest)) := by
  cases cs with
  | nil => rfl
  | cons c cs =>
    have hwritten : escapeLiteral ('\x00' :: c :: cs) =
        (if '0' ≤ c ∧ c ≤ '7' then ['\\', 'x', '0', '0'] else ['\\', '0']) ++
          escapeLiteral (c :: cs) := rfl
    rw [hwritten]
    split <;> rfl

theorem readCooked?_escapeLiteral (cs rest : List Char) :
    readCooked? .text .plain (escapeLiteral cs ++ '"' :: rest) = some (cs, rest) := by
  induction cs with
  | nil => rfl
  | cons c cs ih =>
    by_cases hc : c = '\x00'
    · rw [hc, readCooked?_escapeNul, ih]
      rfl
    · rw [escapeLiteral, List.append_assoc, readCooked?_escapeChar, ih]
      · rfl
      · exact hc

theorem readLiteral?_ofText (s : String) :
    readLiteral? (Literal.ofText s).text.toList = some (.ofText s, []) := by
  have hmeaning : afterLiteral? ('"' :: (escapeLiteral s.toList ++ ['"'])) = some (some s, []) := by
    rw [afterLiteral?]
    simp [readCooked?_escapeLiteral, dropSuffix, readName?]
  rw [Literal.ofText, String.toList_ofList, List.cons_append, readLiteral?, hmeaning]
  simp only [Option.map_some, List.length_nil, Nat.sub_zero, List.take_length]

/-- The text that a literal means as it is written, whatever it was read as. -/
def Literal.meaning? (l : Literal) : Option String :=
  match readLiteral? l.text.toList with
  | some (read, []) => read.value
  | _ => none

/-- **The literal that is written for a text means this text.** -/
@[simp]
theorem Literal.meaning?_ofText (s : String) : (Literal.ofText s).meaning? = some s := by
  rw [Literal.meaning?, readLiteral?_ofText]
  rfl

end Criteria.Source
