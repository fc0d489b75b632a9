import Criteria.Proofs.Json.Exactness
import Criteria.Proofs.Text.Digits

/-!
# What is written is a spelling

The compact form that is written of a value is one of its spellings (`speltAs_write`), so it is read
back, with blanks around it or without (`read_written`).  Written are the values without broken
parts and halves of surrogate pairs, and with numerals that have a spelling.
-/

namespace Criteria

/-! ## Numbers -/

namespace Numeral

/-- The written form of a fraction. -/
def fractionText : Option (List Char) → List Char
  | none => []
  | some digits => '.' :: digits

/-- The written form of an exponent: a small letter, and a sign only if it is negative. -/
def exponentText : Option (Bool × List Char) → List Char
  | none => []
  | some (negative, digits) => 'e' :: (minus negative ++ digits)

theorem write_eq (n : Numeral) :
    n.write =
      minus n.negative ++ (n.whole ++ (fractionText n.fraction ++ exponentText n.exponent)) := by
  unfold write
  rw [List.append_assoc, List.append_assoc]
  cases n.fraction <;> cases n.exponent <;> rfl

theorem speltAs_write {n : Numeral} {cs : List Char} (h : n.SpeltAs cs) : n.SpeltAs n.write := by
  rw [write_eq]
  cases h with
  | parts hwhole hfraction hexponent =>
    refine .parts hwhole ?_ ?_
    · cases hfraction with
      | absent => exact .absent
      | point hdigits => exact .point hdigits
    · cases hexponent with
      | absent => exact .absent
      | @letter _ negative _ _ _ _ hdigits =>
        refine .letter (.inl rfl) ?_ hdigits
        cases negative
        · exact .bare
        · exact .minus

theorem head?_toDigits {n : Nat} (h : 0 < n) : (Nat.toDigits 10 n).head? ≠ some '0' := by
  induction n using Nat.strongRecOn with
  | _ n ih =>
    rw [Nat.toDigits_eq_if (by decide)]
    split
    · next hlt =>
      have hall : ∀ d < 10, 0 < d → d.digitChar ≠ '0' := by decide
      simpa using hall n hlt h
    · have hne : Nat.toDigits 10 (n / 10) ≠ [] := Nat.toDigits_ne_nil
      obtain ⟨d, ds, hds⟩ := List.exists_cons_of_ne_nil hne
      have hhead := ih (n / 10) (Nat.div_lt_self h (by decide)) (by omega)
      rw [hds] at hhead ⊢
      exact hhead

theorem isWhole_toDigits (n : Nat) : IsWhole (Nat.toDigits 10 n) := by
  rcases Nat.eq_zero_or_pos n with rfl | hpos
  · exact .inl rfl
  · exact .inr ⟨⟨Nat.toDigits_ne_nil, fun _ => isDigit_of_mem_toDigits⟩, head?_toDigits hpos⟩

theorem speltAs_ofInt (n : Int) : (ofInt n).SpeltAs (ofInt n).write :=
  speltAs_write (.parts (isWhole_toDigits n.natAbs) .absent .absent)

end Numeral

namespace Json

/-! ## Strings -/

/-- A control character has two zeros before its two digits. -/
theorem control_digits : ∀ n < 32,
    List.replicate (4 - (Text.hexDigits n).length) '0' ++ Text.hexDigits n =
        ['0', '0', (n / 16).digitChar, (n % 16).digitChar] ∧
      hexValue? (n / 16).digitChar = some (n / 16) ∧
      hexValue? (n % 16).digitChar = some (n % 16) := by
  decide

theorem speltAs_code {c : Char} (h : c.toNat < 0x20) :
    StringUnit.SpeltAs (.char c) (['\\', 'u'] ++
      (List.replicate (4 - (Text.hexDigits c.toNat).length) '0' ++ Text.hexDigits c.toNat)) := by
  obtain ⟨hdigits, hhigh, hlow⟩ := control_digits c.toNat h
  have hunit : StringUnit.char c =
      .ofCode (((0 * 16 + 0) * 16 + c.toNat / 16) * 16 + c.toNat % 16) := by
    have hsum : ((0 * 16 + 0) * 16 + c.toNat / 16) * 16 + c.toNat % 16 = c.toNat := by omega
    rw [hsum, StringUnit.ofCode, if_neg (by omega), Char.ofNat_toNat]
  rw [hdigits, hunit]
  exact .code rfl rfl hhigh hlow

theorem speltAs_writeChar (c : Char) : StringUnit.SpeltAs (.char c) (writeChar c) := by
  unfold writeChar
  split
  · next h => exact .short (by simp [escapeLetters, h])
  split
  · next h => exact .short (by simp [escapeLetters, h])
  split
  · next h => exact .short (by simp [escapeLetters, h])
  split
  · next h => exact .short (by simp [escapeLetters, h])
  split
  · next h => exact .short (by simp [escapeLetters, h])
  split
  · next h => exact .short (by simp [escapeLetters, h])
  split
  · next h => exact .short (by simp [escapeLetters, h])
  split
  · next hlt =>
    rw [List.append_assoc]
    exact speltAs_code hlt
  · next hquote hslash _ _ _ _ _ hcontrol => exact .plain hquote hslash (Nat.not_lt.1 hcontrol)

theorem unitsSpeltAs_writeChars (cs : List Char) :
    UnitsSpeltAs (cs.map .char) (cs.flatMap writeChar) := by
  induction cs with
  | nil => exact .nil
  | cons c cs ih =>
    rw [List.flatMap_cons]
    exact .cons (speltAs_writeChar c) ih

theorem joinUnits?_chars (cs : List Char) : joinUnits? (cs.map .char) = some cs := by
  induction cs with
  | nil => rfl
  | cons c cs ih => rw [List.map_cons, joinUnits?, ih, Option.map_some]

theorem speltAs_writeString (s : String) : (Json.string (some s)).SpeltAs (writeString s) := by
  have h := SpeltAs.string (unitsSpeltAs_writeChars s.toList)
  rwa [joinUnits?_chars, Option.map_some, String.ofList_toList] at h

/-! ## Values -/

theorem blank_nil : Blank [] :=
  List.forall_mem_nil _

theorem SpeltAs.padded {j : Json} {cs : List Char} (h : j.SpeltAs cs) : j.PaddedAs cs := by
  have hpad := PaddedAs.pad blank_nil h blank_nil
  rwa [List.nil_append, List.append_nil] at hpad

end Json

mutual

/-- Whether a value can be written. -/
def Json.Writable : Json → Prop
  | .null => True
  | .bool _ => True
  | .number n => ∃ cs, n.SpeltAs cs
  | .string s => s.isSome
  | .array items => items.Writable
  | .object members => members.Writable
  | .broken => False

/-- Whether items can be written. -/
def Items.Writable : Items → Prop
  | .nil => True
  | .cons item rest => item.Writable ∧ rest.Writable

/-- Whether members can be written. -/
def Members.Writable : Members → Prop
  | .nil => True
  | .cons (.string (some _)) value rest => value.Writable ∧ rest.Writable
  | .cons _ _ _ => False

end

mutual

theorem Json.speltAs_write {j : Json} (h : j.Writable) : j.SpeltAs j.write := by
  match j with
  | .null => exact .null
  | .bool true => exact .boolTrue
  | .bool false => exact .boolFalse
  | .number n =>
    obtain ⟨cs, hn⟩ := h
    exact .number (Numeral.speltAs_write hn)
  | .string (some s) => exact Json.speltAs_writeString s
  | .array items =>
    rcases Items.speltAs_write h with rfl | hitems
    · exact .emptyArray Json.blank_nil
    · exact .array hitems
  | .object members =>
    rcases Members.speltAs_write h with rfl | hmembers
    · exact .emptyObject Json.blank_nil
    · exact .object hmembers

theorem Items.speltAs_write {items : Items} (h : items.Writable) :
    items = .nil ∨ items.SpeltAs items.write := by
  match items with
  | .nil => exact .inl rfl
  | .cons item rest =>
    obtain ⟨hitem, hrest⟩ := h
    have hfirst := (Json.speltAs_write hitem).padded
    rcases Items.speltAs_write hrest with rfl | hmore
    · exact .inr (.last hfirst)
    · -- a comma is written only before another item
      refine .inr ?_
      have hcons := Items.SpeltAs.cons hfirst hmore
      cases rest with
      | nil => cases hmore
      | cons _ _ => exact hcons

theorem Members.speltAs_write {members : Members} (h : members.Writable) :
    members = .nil ∨ members.SpeltAs members.write := by
  match members with
  | .nil => exact .inl rfl
  | .cons (.string (some key)) value rest =>
    obtain ⟨hvalue, hrest⟩ := h
    have hkey := (Json.speltAs_writeString key).padded
    have hfirst := (Json.speltAs_write hvalue).padded
    rcases Members.speltAs_write hrest with rfl | hmore
    · exact .inr (.last hkey hfirst)
    · refine .inr ?_
      have hcons := Members.SpeltAs.cons hkey hfirst hmore
      cases rest with
      | nil => cases hmore
      | cons _ _ _ => simpa [Members.write, Json.write] using hcons

end

theorem Json.paddedAs_text {j : Json} (h : j.Writable) {a b : List Char} (ha : Json.Blank a)
    (hb : Json.Blank b) : j.PaddedAs (String.ofList a ++ j.text ++ String.ofList b).toList := by
  rw [String.toList_append, String.toList_append, Json.text, String.toList_ofList,
    String.toList_ofList, String.toList_ofList, List.append_assoc]
  exact .pad ha (Json.speltAs_write h) hb

/-- **What is written is read back**, whatever blanks come before and after it. -/
theorem Json.read_written {j : Json} (h : j.Writable) {a b : List Char} (ha : Json.Blank a)
    (hb : Json.Blank b) :
    Json.read (String.ofList a ++ j.text ++ String.ofList b) = (j, true) :=
  Json.read_of_paddedAs (Json.paddedAs_text h ha hb)

end Criteria
