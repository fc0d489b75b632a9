import Criteria.Proofs.Fingerprint.Bytes

/-!
# What a fingerprint depends on

A fingerprint is a function of the names of a filter's criteria with their values, in any order,
and of the page (`Filter.fingerprint_eq_of_contents_perm`): every criterion contributes bytes that
say nothing but its name and its value, and exclusive or takes the contributions in any order
(`Fingerprint.foldl_xor_perm`).
-/

namespace Criteria

/-- The names of the criteria, each with what the filter holds for it. -/
def Filter.contents (f : Filter) : List (String × Reading) :=
  f.table.map fun c => (c.name, f.read c.name)

namespace Fingerprint

theorem contributions_eq_contents (f : Filter) :
    contributions f = f.contents.map (fun entry => fieldBytes entry.1 entry.2)
      ++ [startBytes f.paging, sizeBytes f.paging] := by
  unfold Filter.contents
  rw [contributions_eq, List.map_map]
  rfl

/-- Filters with the same contents contribute the same bytes, in some order. -/
theorem contributions_perm {f g : Filter} (hcontents : f.contents.Perm g.contents)
    (hpaging : f.paging = g.paging) : (contributions f).Perm (contributions g) := by
  rw [contributions_eq_contents, contributions_eq_contents, hpaging]
  exact (hcontents.map _).append_right _

/-- Exclusive or combines words in any order to the same word. -/
theorem foldl_xor_perm {xs ys : List UInt64} (h : xs.Perm ys) (start : UInt64) :
    xs.foldl (· ^^^ ·) start = ys.foldl (· ^^^ ·) start := by
  refine h.foldl_eq' (fun x _ y _ word => ?_) start
  rw [UInt64.xor_assoc, UInt64.xor_comm x, ← UInt64.xor_assoc]

end Fingerprint

namespace Filter

/-- **A fingerprint depends only on names, values and the page.**  The order of the criteria does
not matter, nor does anything else that a table says of them. -/
theorem fingerprint_eq_of_contents_perm {f g : Filter} (hcontents : f.contents.Perm g.contents)
    (hpaging : f.paging = g.paging) : f.fingerprint = g.fingerprint := by
  have hhashes := (Fingerprint.contributions_perm hcontents hpaging).map SipHash.hash
  exact Fingerprint.foldl_xor_perm hhashes 0

/-- Two tables that say different things of the same names in another order; two criteria have one
name, and so one value. -/
theorem fingerprint_eq_of_contents_perm_other_rules :
    let read : String → Reading := fun name =>
      if name = "title" then .text (some "bug")
      else if name = "labels" then .textList (some ["red", "late"]) else .unreadable
    let f : Filter :=
      ⟨[⟨"title", .text, {}⟩, ⟨"ghost", .text, {}⟩, ⟨"labels", .textList, {}⟩,
        ⟨"title", .text, {}⟩], read, { pageSize := 20 }⟩
    let g : Filter :=
      ⟨[⟨"labels", .number, { target := some "tags", skipSynthesis := true }⟩,
        ⟨"title", .text, { case := .insensitive, textMatch := .contains }⟩,
        ⟨"title", .optionalDate, { logic := .or, dateOp := .lessThan }⟩,
        ⟨"ghost", .text, { ignoreIfEmpty := false }⟩], read, { pageSize := 20 }⟩
    f.table ≠ g.table ∧ f.contents.Perm g.contents ∧ f.paging = g.paging ∧
      f.fingerprint = g.fingerprint := by
  intro read f g
  have hcontents : f.contents.Perm g.contents := by decide
  have hpaging : f.paging = g.paging := rfl
  exact ⟨by decide, hcontents, hpaging, fingerprint_eq_of_contents_perm hcontents hpaging⟩

end Filter

end Criteria
