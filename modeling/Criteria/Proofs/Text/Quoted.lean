import Criteria.Proofs.Text.Digits
import Criteria.Text.Quoted

/-!
# Quoted texts read back

A quoted text and a bracketed list of them determine what they hold, whatever is written after
them.  No quote inside a quoted text stands without a backslash, so the first one that does ends
it, and the escapes of two characters never begin alike.

* `separates_escapeChar`: one character.
* `separates_quote`, `separates_quoteList`: a text, a list of texts.
-/

namespace Criteria.Text

/-! ## One character -/

/-- The characters with an escape of their own, each with the letter after the backslash. -/
def shortEscapes : List (Char × Char) :=
  [('\x00', '0'), ('\t', 't'), ('\r', 'r'), ('\n', 'n'), ('\\', '\\'), ('"', '"')]

/-- The three ways in which a character is written between quotes. -/
inductive Escaping (c : Char) : List Char → Prop where
  | plain (hslash : c ≠ '\\') (hquote : c ≠ '"') : Escaping c [c]
  | short {k : Char} (hk : (c, k) ∈ shortEscapes) : Escaping c ['\\', k]
  | codePoint : Escaping c (codePointEscape c)

theorem escaping_escapeChar (c : Char) : Escaping c (escapeChar c) := by
  unfold escapeChar
  split
  · next h => exact .short (by simp [shortEscapes, h])
  split
  · next h => exact .short (by simp [shortEscapes, h])
  split
  · next h => exact .short (by simp [shortEscapes, h])
  split
  · next h => exact .short (by simp [shortEscapes, h])
  split
  · next h => exact .short (by simp [shortEscapes, h])
  split
  · next h => exact .short (by simp [shortEscapes, h])
  split
  · exact .codePoint
  · next hslash hquote _ => exact .plain hslash hquote

/-- The letter after the backslash tells the short escapes apart. -/
theorem shortEscapes_inj {c d k : Char} (hc : (c, k) ∈ shortEscapes) (hd : (d, k) ∈ shortEscapes) :
    c = d := by
  have hall : ∀ p ∈ shortEscapes, ∀ q ∈ shortEscapes, p.2 = q.2 → p.1 = q.1 := by decide
  exact hall (c, k) hc (d, k) hd rfl

/-- No short escape begins like the escape by code point. -/
theorem letter_ne_of_mem_shortEscapes {c k : Char} (hc : (c, k) ∈ shortEscapes) : k ≠ 'u' := by
  have hall : ∀ p ∈ shortEscapes, p.2 ≠ 'u' := by decide
  exact hall (c, k) hc

theorem ne_closing_of_mem_hexDigits {n : Nat} {c : Char} (hc : c ∈ hexDigits n) : c ≠ '\x7d' := by
  obtain ⟨d, hd, rfl⟩ := exists_digit_of_mem_toDigits (by decide) hc
  have hall : ∀ d < 16, d.digitChar ≠ '\x7d' := by decide
  exact hall d hd

theorem separates_codePointEscape (c d : Char) : Separates codePointEscape c d := by
  intro s t h
  have hhex : hexDigits c.toNat ++ '\x7d' :: s = hexDigits d.toNat ++ '\x7d' :: t := by
    simpa [codePointEscape] using h
  obtain ⟨hdigits, -, hst⟩ := append_stop_inj (p := fun e => e != '\x7d')
    (fun e he => by simpa using ne_closing_of_mem_hexDigits he)
    (fun e he => by simpa using ne_closing_of_mem_hexDigits he) (by simp) (by simp) hhex
  exact ⟨Char.toNat_inj.1 (toDigits_inj (by decide) (by decide) hdigits), hst⟩

/-- Escapes of different characters are told apart within what both of them hold. -/
theorem separates_escapeChar (c d : Char) : Separates escapeChar c d := by
  intro s t h
  have hc := escaping_escapeChar c
  have hd := escaping_escapeChar d
  generalize escapeChar c = u at h hc
  generalize escapeChar d = v at h hd
  cases hc with
  | plain hslash hquote =>
    cases hd with
    | plain => exact List.cons.inj h
    | short => exact absurd (List.cons.inj h).1 hslash
    | codePoint => exact absurd (List.cons.inj h).1 hslash
  | short hk =>
    cases hd with
    | plain hslash => exact absurd (List.cons.inj h).1.symm hslash
    | short hk' =>
      obtain ⟨-, hrest⟩ := List.cons.inj h
      obtain ⟨rfl, hst⟩ := List.cons.inj hrest
      exact ⟨shortEscapes_inj hk hk', hst⟩
    | codePoint =>
      obtain ⟨-, hrest⟩ := List.cons.inj h
      exact absurd (List.cons.inj hrest).1 (letter_ne_of_mem_shortEscapes hk)
  | codePoint =>
    cases hd with
    | plain hslash => exact absurd (List.cons.inj h).1.symm hslash
    | short hk =>
      obtain ⟨-, hrest⟩ := List.cons.inj h
      exact absurd (List.cons.inj hrest).1.symm (letter_ne_of_mem_shortEscapes hk)
    | codePoint => exact separates_codePointEscape c d h

/-- What is written for a character cannot be taken for the closing quote. -/
theorem escapeChar_append_ne_quote (c : Char) (s t : List Char) : escapeChar c ++ s ≠ '"' :: t := by
  intro h
  have hc := escaping_escapeChar c
  generalize escapeChar c = u at h hc
  cases hc with
  | plain _ hquote => exact hquote (List.cons.inj h).1
  | short => exact absurd (List.cons.inj h).1 (by decide)
  | codePoint => exact absurd (List.cons.inj h).1 (by decide)

/-! ## Texts and lists of texts -/

theorem escapeChars_append_quote_inj {cs ds s t : List Char}
    (h : escapeChars cs ++ '"' :: s = escapeChars ds ++ '"' :: t) : cs = ds ∧ s = t := by
  induction cs generalizing ds with
  | nil =>
    cases ds with
    | nil => exact ⟨rfl, (List.cons.inj h).2⟩
    | cons d ds =>
      simp only [escapeChars, List.append_assoc] at h
      exact absurd h.symm (escapeChar_append_ne_quote d _ _)
  | cons c cs ih =>
    cases ds with
    | nil =>
      simp only [escapeChars, List.append_assoc] at h
      exact absurd h (escapeChar_append_ne_quote c _ _)
    | cons d ds =>
      simp only [escapeChars, List.append_assoc] at h
      obtain ⟨rfl, hrest⟩ := separates_escapeChar c d h
      obtain ⟨rfl, hst⟩ := ih hrest
      exact ⟨rfl, hst⟩

/-- A quoted text determines the text. -/
theorem separates_quote (a b : String) : Separates (fun s => (quote s).toList) a b := by
  intro s t h
  have hbody : escapeChars a.toList ++ '"' :: s = escapeChars b.toList ++ '"' :: t := by
    simpa [quote, quoteChars] using h
  obtain ⟨hab, hst⟩ := escapeChars_append_quote_inj hbody
  exact ⟨String.toList_inj.1 hab, hst⟩

theorem exists_quote_eq_cons (s : String) : ∃ body, (quote s).toList = '"' :: body :=
  ⟨escapeChars s.toList ++ ['"'], by simp [quote, quoteChars]⟩

theorem quoteList_toList (texts : List String) :
    (quoteList texts).toList
      = '[' :: ([',', ' '].intercalate (texts.map fun s => (quote s).toList) ++ [']']) := by
  simp [quoteList, String.toList_intercalate, List.map_map, Function.comp_def]

/-- A bracketed list of quoted texts determines the list. -/
theorem separates_quoteList (xs ys : List String) :
    Separates (fun texts => (quoteList texts).toList) xs ys := by
  intro s t h
  simp only [quoteList_toList, List.cons_append, List.append_assoc, List.cons.injEq,
    true_and] at h
  -- The bracket that closes the list begins neither a separator nor a quoted text.
  by_cases hxs : xs = []
  · subst hxs
    cases ys with
    | nil => simpa using h
    | cons b ys =>
      obtain ⟨body, hb⟩ := exists_quote_eq_cons b
      cases ys <;> simp [hb] at h
  · by_cases hys : ys = []
    · subst hys
      cases xs with
      | nil => simpa using h
      | cons a xs =>
        obtain ⟨body, ha⟩ := exists_quote_eq_cons a
        cases xs <;> simp [ha] at h
    · obtain ⟨hxy, hst⟩ := intercalate_append_inj (fun a _ b _ => separates_quote a b) hxs hys
        (by simp) (by simp) h
      exact ⟨hxy, by simpa using hst⟩

end Criteria.Text
