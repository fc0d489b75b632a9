import Criteria.Proofs.Text.Delimited
import Criteria.Timestamp

/-!
# Numbers read back

A number is determined by its digits, in decimal also with zeros in front, and in a longer text
it ends at the first character that is no digit (`intText_append_inj`, `padded_append_inj`).
-/

namespace Criteria

/-! ## Digits in a base -/

theorem digitChar_inj {d e : Nat} (hd : d < 16) (he : e < 16) (h : d.digitChar = e.digitChar) :
    d = e := by
  have hall : ∀ d < 16, ∀ e < 16, d.digitChar = e.digitChar → d = e := by decide
  exact hall d hd e he h

theorem exists_digit_of_mem_toDigits {b n : Nat} {c : Char} (hb : 1 < b)
    (hc : c ∈ Nat.toDigits b n) : ∃ d < b, c = d.digitChar := by
  induction n using Nat.strongRecOn with
  | _ n ih =>
    rw [Nat.toDigits_eq_if hb] at hc
    split at hc
    · next hlt => exact ⟨n, hlt, List.mem_singleton.1 hc⟩
    · next hge =>
      rcases List.mem_append.1 hc with hc | hc
      · exact ih (n / b) (Nat.div_lt_self (by omega) hb) hc
      · exact ⟨n % b, Nat.mod_lt n (by omega), List.mem_singleton.1 hc⟩

/-- A number is determined by its digits in a base of at most sixteen. -/
theorem toDigits_inj {b m n : Nat} (hb : 1 < b) (hb' : b ≤ 16)
    (h : Nat.toDigits b m = Nat.toDigits b n) : m = n := by
  induction m using Nat.strongRecOn generalizing n with
  | _ m ih =>
    have hlast : ∀ k, k % b < 16 := fun k => Nat.lt_of_lt_of_le (Nat.mod_lt k (by omega)) hb'
    rw [Nat.toDigits_eq_if (n := m) hb, Nat.toDigits_eq_if (n := n) hb] at h
    split at h <;> split at h
    · exact digitChar_inj (by omega) (by omega) (List.cons.inj h).1
    · -- one digit on the left, at least two on the right
      have hlen := congrArg List.length h
      have hpos := Nat.length_toDigits_pos (b := b) (n := n / b)
      simp only [List.length_append, List.length_singleton] at hlen
      omega
    · have hlen := congrArg List.length h
      have hpos := Nat.length_toDigits_pos (b := b) (n := m / b)
      simp only [List.length_append, List.length_singleton] at hlen
      omega
    · obtain ⟨hinit, hdigit⟩ := List.append_inj' h rfl
      have hdiv := ih (m / b) (Nat.div_lt_self (by omega) hb) hinit
      have hmod := digitChar_inj (hlast m) (hlast n) (List.cons.inj hdigit).1
      rw [← Nat.div_add_mod m b, ← Nat.div_add_mod n b, hdiv, hmod]

theorem isDigit_of_mem_toDigits {n : Nat} {c : Char} (hc : c ∈ Nat.toDigits 10 n) :
    c.isDigit = true :=
  Nat.isDigit_of_mem_toDigits (by decide) (by decide) hc

/-! ## Digits with zeros in front -/

theorem isDigit_of_mem_padded {width n : Nat} {c : Char} (hc : c ∈ padded width n) :
    c.isDigit = true := by
  unfold padded at hc
  rcases List.mem_append.1 hc with hc | hc
  · rw [(List.mem_replicate.1 hc).2]
    rfl
  · exact isDigit_of_mem_toDigits hc

theorem padded_ne_nil (width n : Nat) : padded width n ≠ [] := by
  simp [padded]

theorem length_padded {width n : Nat} (h : (Nat.toDigits 10 n).length ≤ width) :
    (padded width n).length = width := by
  simp only [padded, List.length_append, List.length_replicate]
  omega

/-- The zeros in front do not change the number that is read. -/
theorem ofDigitChars_padded (width n : Nat) : Nat.ofDigitChars 10 (padded width n) 0 = n := by
  simp only [padded, Nat.ofDigitChars_append, Nat.ofDigitChars_replicate_zero, Nat.mul_zero,
    Nat.ofDigitChars_ten_toDigits]

theorem padded_inj {width width' m n : Nat} (h : padded width m = padded width' n) : m = n := by
  rw [← ofDigitChars_padded width m, h, ofDigitChars_padded]

theorem padded_append_inj {width width' m n : Nat} {x y : Char} {s t : List Char}
    (hx : x.isDigit = false) (hy : y.isDigit = false)
    (h : padded width m ++ x :: s = padded width' n ++ y :: t) : m = n ∧ x = y ∧ s = t := by
  obtain ⟨heq, hxy, hst⟩ := Text.append_stop_inj (fun _ => isDigit_of_mem_padded)
    (fun _ => isDigit_of_mem_padded) hx hy h
  exact ⟨padded_inj heq, hxy, hst⟩

/-! ## Numbers with a sign -/

/-- A sign of other characters, digits and something else after them can be told apart. -/
theorem signed_append_inj {sign sign' u v s t : List Char} {x y : Char}
    (hsign : ∀ c ∈ sign, c.isDigit = false) (hsign' : ∀ c ∈ sign', c.isDigit = false)
    (hu : ∀ c ∈ u, c.isDigit = true) (hv : ∀ c ∈ v, c.isDigit = true) (hune : u ≠ [])
    (hvne : v ≠ []) (hx : x.isDigit = false) (hy : y.isDigit = false)
    (h : sign ++ u ++ x :: s = sign' ++ v ++ y :: t) :
    sign = sign' ∧ u = v ∧ x = y ∧ s = t := by
  obtain ⟨c, u, rfl⟩ := List.exists_cons_of_ne_nil hune
  obtain ⟨d, v, rfl⟩ := List.exists_cons_of_ne_nil hvne
  have hdigits : sign ++ c :: (u ++ x :: s) = sign' ++ d :: (v ++ y :: t) := by simpa using h
  obtain ⟨hsigns, rfl, hrest⟩ := Text.append_stop_inj (p := fun c => !c.isDigit)
    (fun e he => by simp [hsign e he]) (fun e he => by simp [hsign' e he])
    (by simp [hu c List.mem_cons_self]) (by simp [hv d List.mem_cons_self]) hdigits
  obtain ⟨rfl, hxy, hst⟩ := Text.append_stop_inj
    (fun e he => hu e (List.mem_cons_of_mem c he)) (fun e he => hv e (List.mem_cons_of_mem c he))
    hx hy hrest
  exact ⟨hsigns, rfl, hxy, hst⟩

/-- Text that begins with a sign and digits begins with a character of the sign or a digit. -/
theorem signed_append_ne {sign digits : List Char} {x : Char} (hsign : x ∉ sign)
    (hdigits : ∀ c ∈ digits, c.isDigit = true) (hne : digits ≠ []) (hx : x.isDigit = false)
    (s t : List Char) : sign ++ (digits ++ s) ≠ x :: t := by
  intro h
  cases sign with
  | nil =>
    obtain ⟨c, digits, rfl⟩ := List.exists_cons_of_ne_nil hne
    obtain ⟨rfl, -⟩ := List.cons.inj h
    rw [hdigits c List.mem_cons_self] at hx
    cases hx
  | cons c sign =>
    obtain ⟨rfl, -⟩ := List.cons.inj h
    exact hsign List.mem_cons_self

/-- The sign of a number, written only if it is negative. -/
def minusText (n : Int) : List Char :=
  if n < 0 then ['-'] else []

theorem isDigit_of_mem_minusText {n : Int} {c : Char} (hc : c ∈ minusText n) :
    c.isDigit = false := by
  unfold minusText at hc
  split at hc
  · rw [List.mem_singleton.1 hc]
    rfl
  · cases hc

theorem minusText_inj {m n : Int} (hsign : minusText m = minusText n)
    (habs : m.natAbs = n.natAbs) : m = n := by
  unfold minusText at hsign
  split at hsign <;> split at hsign <;> first | omega | cases hsign

theorem intText_eq (n : Int) : intText n = minusText n ++ Nat.toDigits 10 n.natAbs := by
  unfold intText minusText
  split <;> rfl

theorem intText_append_inj {m n : Int} {x y : Char} {s t : List Char}
    (hx : x.isDigit = false) (hy : y.isDigit = false)
    (h : intText m ++ x :: s = intText n ++ y :: t) : m = n ∧ x = y ∧ s = t := by
  rw [intText_eq, intText_eq] at h
  obtain ⟨hsign, hdigits, hxy, hst⟩ := signed_append_inj (fun _ => isDigit_of_mem_minusText)
    (fun _ => isDigit_of_mem_minusText) (fun _ => isDigit_of_mem_toDigits)
    (fun _ => isDigit_of_mem_toDigits) Nat.toDigits_ne_nil Nat.toDigits_ne_nil hx hy h
  exact ⟨minusText_inj hsign (toDigits_inj (by decide) (by decide) hdigits), hxy, hst⟩

end Criteria
