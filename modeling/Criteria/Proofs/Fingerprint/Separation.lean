import Criteria.Proofs.Fingerprint.Bytes
import Criteria.Proofs.Table
import Mathlib.Data.List.Basic

/-!
# Contributions of one filter

The contributions of a filter are combined by exclusive or, so two equal ones cancel.  Those of two
criteria differ by the name.  A number of the page, however, has a name that a criterion may have
too, and no tag: a criterion of that name whose value is a text of two bytes contributes four bytes
after the name, like the number.

* `Fingerprint.valueBytes_eq_signedBytes_iff`: the values with the bytes of a number of the page.
* `Filter.contributions_nodup_iff`: the contributions are distinct unless there is such a value.
-/

namespace Criteria

/-- A value whose bytes are those of a number of the page: a text of two bytes, which become the
middle bytes of a negative number between the tag of a text and the byte that ends it. -/
def Reading.PosesAs (reading : Reading) (number : Int32) : Prop :=
  ∃ s b0 b1, reading = .text (some s) ∧ utf8Bytes s = [b0, b1] ∧
    number.toInt = 1 + 256 * b0.toNat + 65536 * b1.toNat - 16777216

/-- Numbers that may be asked for, and the mark of one that is not set, are beyond imitation. -/
theorem Reading.PosesAs.lt {reading : Reading} {number : Int32} (h : reading.PosesAs number) :
    number.toInt < -1 := by
  obtain ⟨s, b0, b1, -, -, hnumber⟩ := h
  have h0 := b0.toNat_lt
  have h1 := b1.toNat_lt
  omega

namespace Fingerprint

/-! ## A value and a number -/

theorem littleEndian_four_eq_iff {n : Nat} {b0 b1 b2 b3 : UInt8} :
    littleEndian 4 n = [b0, b1, b2, b3] ↔
      n % 4294967296 =
        b0.toNat + 256 * b1.toNat + 65536 * b2.toNat + 16777216 * b3.toNat := by
  simp only [littleEndian, List.cons.injEq, and_true, ← UInt8.toNat_inj, UInt8.toNat_ofNat']
  have h0 := b0.toNat_lt
  have h1 := b1.toNat_lt
  have h2 := b2.toNat_lt
  have h3 := b3.toNat_lt
  omega

/-- The four bytes of a text of two bytes, read as a number. -/
theorem tagged_eq_signedBytes_iff {b0 b1 : UInt8} {number : Int32} :
    [1, b0, b1, 0xff] = signedBytes 4 number.toInt ↔
      number.toInt = 1 + 256 * b0.toNat + 65536 * b1.toNat - 16777216 := by
  have hpow : (Nat.pow 256 4 : Int) = 4294967296 := by decide
  have htag : (1 : UInt8).toNat = 1 := rfl
  have hstop : (0xff : UInt8).toNat = 255 := rfl
  have hlow := number.le_toInt
  have hhigh := number.toInt_lt
  have h0 := b0.toNat_lt
  have h1 := b1.toNat_lt
  rw [eq_comm, signedBytes, littleEndian_four_eq_iff, hpow, htag, hstop]
  omega

theorem valueBytes_eq_signedBytes_iff {reading : Reading} {number : Int32} :
    valueBytes reading = signedBytes 4 number.toInt ↔ reading.PosesAs number := by
  constructor
  · intro h
    have hlength : (valueBytes reading).length = 4 := by rw [h, length_signedBytes]
    rcases reading with (_ | s) | (_ | values) | (_ | t) | _ <;>
      simp [valueBytes, textBytes_eq, length_littleEndian, length_signedBytes] at hlength
    -- Of all values only a text has a length to choose.
    obtain ⟨b0, b1, hbytes⟩ := List.length_eq_two.1 hlength
    simp only [valueBytes, textBytes_eq, hbytes] at h
    exact ⟨s, b0, b1, rfl, hbytes, tagged_eq_signedBytes_iff.1 h⟩
  · rintro ⟨s, b0, b1, rfl, hbytes, hnumber⟩
    simp only [valueBytes, textBytes_eq, hbytes]
    exact tagged_eq_signedBytes_iff.2 hnumber

/-- What a criterion contributes is what a number of the page contributes exactly if the names are
the same and the value poses as the number. -/
theorem fieldBytes_eq_iff {name label : String} {reading : Reading} {number : Int32} :
    fieldBytes name reading = textBytes label ++ signedBytes 4 number.toInt ↔
      name = label ∧ reading.PosesAs number := by
  rw [← valueBytes_eq_signedBytes_iff]
  constructor
  · exact textBytes_append_inj
  · rintro ⟨rfl, hvalue⟩
    rw [fieldBytes, hvalue]

/-! ## All contributions -/

/-- Criteria with names of their own contribute different bytes, whatever their values. -/
theorem nodup_map_fieldBytes {f : Filter} (hnames : (f.table.map Criterion.name).Nodup) :
    (f.table.map fun c => fieldBytes c.name (f.read c.name)).Nodup := by
  rw [List.Nodup, List.pairwise_map] at hnames ⊢
  exact hnames.imp fun hne heq => hne (textBytes_append_inj heq).1

theorem startBytes_ne_sizeBytes (paging : Paging) : startBytes paging ≠ sizeBytes paging := by
  intro h
  exact absurd (textBytes_append_inj h).1 (by decide)

end Fingerprint

namespace Filter

open Fingerprint

/-- **The contributions of a filter are distinct** unless a criterion named like a number of the
page has a value that poses as that number.  So they are distinct on every page whose numbers are
unset or not negative. -/
theorem contributions_nodup_iff {f : Filter} (h : f.table.check = .ok ()) :
    ((contributions f).Nodup ↔
        ∀ c ∈ f.table,
          ¬ (c.name = "starting_index" ∧ (f.read c.name).PosesAs f.paging.startingIndex) ∧
            ¬ (c.name = "page_size" ∧ (f.read c.name).PosesAs f.paging.pageSize)) ∧
      (-1 ≤ f.paging.startingIndex.toInt → -1 ≤ f.paging.pageSize.toInt →
        (contributions f).Nodup) := by
  have hnames := (Table.check_eq_ok_iff.1 h).2.2
  have hiff : (contributions f).Nodup ↔
      ∀ c ∈ f.table,
        ¬ (c.name = "starting_index" ∧ (f.read c.name).PosesAs f.paging.startingIndex) ∧
          ¬ (c.name = "page_size" ∧ (f.read c.name).PosesAs f.paging.pageSize) := by
    have hpage : [startBytes f.paging, sizeBytes f.paging].Nodup := by
      simpa using startBytes_ne_sizeBytes f.paging
    rw [contributions_eq, List.nodup_append]
    simp only [nodup_map_fieldBytes hnames, hpage, true_and, List.forall_mem_map,
      List.forall_mem_cons, List.not_mem_nil, false_implies, implies_true, and_true]
    refine forall₂_congr fun c _ => and_congr (not_congr ?_) (not_congr ?_)
    · exact fieldBytes_eq_iff
    · exact fieldBytes_eq_iff
  refine ⟨hiff, fun hstart hsize => hiff.2 fun c _ => ⟨?_, ?_⟩⟩
  · rintro ⟨-, hposes⟩
    exact absurd hposes.lt (by omega)
  · rintro ⟨-, hposes⟩
    exact absurd hposes.lt (by omega)

/-- Criteria named like the numbers of the page, on a page whose numbers are set. -/
theorem contributions_nodup_page_names :
    let f := ofRows [(⟨"starting_index", .text, {}⟩, .text (some "ab")),
      (⟨"page_size", .textList, {}⟩, .textList (some ["ab"]))] ⟨20, 10⟩
    f.table.check = .ok () ∧ (contributions f).Nodup := by
  intro f
  exact ⟨rfl, (contributions_nodup_iff (f := f) rfl).2 (by decide) (by decide)⟩

/-- Two texts that pose as the start of their pages: the two contributions of each filter cancel,
and the filters have one fingerprint. -/
theorem contributions_cancel_two_bytes :
    let criterion : Criterion := ⟨"starting_index", .text, {}⟩
    let f := ofRows [(criterion, .text (some "ab"))] ⟨-10329855, -1⟩
    let g := ofRows [(criterion, .text (some "cd"))] ⟨-10198271, -1⟩
    f.table.check = .ok () ∧ ¬ (contributions f).Nodup ∧ f.fingerprint = g.fingerprint := by
  intro criterion f g
  exact ⟨rfl, by decide, by decide⟩

end Filter

end Criteria
