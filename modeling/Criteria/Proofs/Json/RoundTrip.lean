import Criteria.Json.Encode
import Criteria.Proofs.Json.Objects

/-!
# Values read back from their texts

What the small values are written as is read as the same values (`texts_read_back`).  For keywords
it is enough that no two choices share one.  Integers are read digit by digit, so the only ones that
a reader of limited width has no value for are those out of its range, and these it refuses.
-/

namespace Criteria.Json

variable {α : Type}

/-- Whether every value is read back from its compact text, with any blanks before and after it. -/
def ReadsBack (decode : Decoder α) (encode : α → Json) : Prop :=
  ∀ x a b, Blank a → Blank b →
    decodeText decode (String.ofList a ++ (encode x).text ++ String.ofList b) = .ok x

theorem readsBack_of_decode {decode : Decoder α} {encode : α → Json}
    (hwritable : ∀ x, (encode x).Writable) (hdecode : ∀ x, decode (encode x) = .ok x) :
    ReadsBack decode encode := by
  intro x a b ha hb
  rw [decodeText_of_paddedAs (paddedAs_text (hwritable x) ha hb), hdecode]

/-! ## Keywords -/

theorem lookup_name {name : α → String} {all : List α} {x : α}
    (hinj : ∀ y ∈ all, name y = name x → y = x) (hx : x ∈ all) :
    (all.map fun y => (name y, y)).lookup (name x) = some x := by
  induction all with
  | nil => cases hx
  | cons y all ih =>
    rw [List.map_cons, List.lookup_cons]
    -- an earlier value with the name of `x` can only be `x`
    by_cases hname : name y = name x
    · rw [hname, beq_self_eq_true, hinj y List.mem_cons_self hname]
    · rw [beq_false_of_ne (Ne.symm hname)]
      refine ih (fun z hz => hinj z (List.mem_cons_of_mem y hz)) ?_
      exact (List.mem_cons.1 hx).resolve_left fun h => hname (h ▸ rfl)

/-- Keywords are read back if no two values share one. -/
theorem readsBack_variants {name : α → String} {all : List α} (hall : ∀ x, x ∈ all)
    (hinj : ∀ x ∈ all, ∀ y ∈ all, name y = name x → y = x) :
    ReadsBack (decodeVariant (all.map fun x => (name x, x))) fun x => .string (name x) := by
  refine readsBack_of_decode (fun x => rfl) fun x => ?_
  rw [decodeVariant, decodeName, lookup_name (hinj x (hall x)) (hall x)]

/-! ## Pages and instants -/

theorem decodePaging_json (p : Paging) : decodePaging p.json = .ok p := by
  refine decodePagingMembers_eq_ok_iff.2 ⟨?_, ?_, ?_⟩
  · exact .only (isInt32_ofInt p.startingIndex)
  · exact .only (isInt32_ofInt p.pageSize)
  · simp [startingIndexKey, pageSizeKey]

theorem decodeTimestamp_json (t : Timestamp) : decodeTimestamp t.json = .ok t := by
  have ht : Timestamp.ofNanos? t.nanos = some t := dif_pos ⟨t.min_le, t.le_max⟩
  rw [Timestamp.json, decodeTimestamp, Numeral.integer?_ofInt, Option.bind_some, ht]

/-- Where a value stands for a field of a page: under the name of one, or in the place of one. -/
inductive StandsInPage : Json → Json → Prop where
  | named {members : List (String × Json)} {key : String} {value : Json}
      (hmem : (key, value) ∈ members) (hkey : key = startingIndexKey ∨ key = pageSizeKey) :
      StandsInPage value (.object (.ofList members))
  | first {value : Json} {rest : Items} : StandsInPage value (.array (.cons value rest))
  | second {start value : Json} {rest : Items} :
      StandsInPage value (.array (.cons start (.cons value rest)))

/-- A page holds nothing else in its fields than what stands there. -/
theorem exists_isInt32_of_decodePaging {j value : Json} {p : Paging}
    (hstands : StandsInPage value j) (h : decodePaging j = .ok p) : ∃ x, value.IsInt32 x := by
  cases hstands with
  | named hmem hkey =>
    obtain ⟨hstart, hsize, -⟩ := decodePagingMembers_eq_ok_iff.1 h
    rcases hkey with rfl | rfl
    · exact ⟨_, hstart.means_of_mem (mem_valuesOf_iff.2 hmem)⟩
    · exact ⟨_, hsize.means_of_mem (mem_valuesOf_iff.2 hmem)⟩
  | @first _ rest =>
    cases rest with
    | nil | cons _ _ =>
      obtain ⟨x, hx, -⟩ := bind_eq_ok_iff.1 h
      exact ⟨x, decodeInt32_eq_ok_iff.1 hx⟩
  | second =>
    obtain ⟨_, -, hrest⟩ := bind_eq_ok_iff.1 h
    obtain ⟨x, hx, -⟩ := bind_eq_ok_iff.1 hrest
    exact ⟨x, decodeInt32_eq_ok_iff.1 hx⟩

/-- **Values read back from their texts.**  Every kind, choice, page and instant and all options are
read back from their compact text, with any blanks around it.  An integer that does not fit, of
whatever size and however it is surrounded, is refused: one of more than 128 bits for an instant,
one of more than 32 bits for a field of a page. -/
theorem texts_read_back :
    (ReadsBack decodeKind Kind.json ∧ ReadsBack decodeCase Case.json ∧
      ReadsBack decodeTextMatch TextMatch.json ∧ ReadsBack decodeDateOp DateOp.json ∧
      ReadsBack decodeLogic Logic.json ∧ ReadsBack decodeOptions Options.json ∧
      ReadsBack decodePaging Paging.json ∧ ReadsBack decodeTimestamp Timestamp.json) ∧
    ∀ (m : Numeral) (n : Int), m.integer? = some n →
      (∀ s : String, (Json.number m).PaddedAs s.toList →
        ¬(minNanos ≤ n ∧ n ≤ maxNanos) →
        decodeText decodeTimestamp s = .error .malformed) ∧
      ∀ (j : Json) (s : String), j.PaddedAs s.toList → StandsInPage (.number m) j →
        ¬(-2147483648 ≤ n ∧ n ≤ 2147483647) →
        ∃ e, decodeText decodePaging s = .error e := by
  refine ⟨⟨?_, ?_, ?_, ?_, ?_, ?_, ?_, ?_⟩, fun m n hn => ⟨?_, ?_⟩⟩
  · exact readsBack_variants (fun k => by cases k <;> decide) (by decide)
  · exact readsBack_variants (fun c => by cases c <;> decide) (by decide)
  · exact readsBack_variants (fun m => by cases m <;> decide) (by decide)
  · exact readsBack_variants (fun op => by cases op <;> decide) (by decide)
  · exact readsBack_variants (fun l => by cases l <;> decide) (by decide)
  · refine readsBack_of_decode (fun o => ⟨trivial, trivial⟩) fun o => ?_
    exact decodeOptionsMembers_eq_ok_iff.2 ⟨.only rfl, by simp [optimisticKey]⟩
  · refine readsBack_of_decode (fun p => ?_) decodePaging_json
    exact ⟨⟨_, Numeral.speltAs_ofInt _⟩, ⟨_, Numeral.speltAs_ofInt _⟩, trivial⟩
  · exact readsBack_of_decode (fun t => ⟨_, Numeral.speltAs_ofInt _⟩) decodeTimestamp_json
  · intro s hs hrange
    have hnone : Timestamp.ofNanos? n = none := dif_neg hrange
    rw [decodeText_of_paddedAs hs, decodeTimestamp, hn, Option.bind_some, hnone]
  · intro j s hs hstands hrange
    refine eq_error_of_ne_ok fun p hp => ?_
    rw [decodeText_of_paddedAs hs] at hp
    obtain ⟨x, hx⟩ := exists_isInt32_of_decodePaging hstands hp
    exact not_isInt32 hn hrange x hx

/-- The least integers that are too large for an instant and for the length of a page. -/
theorem texts_read_back_too_large :
    decodeText decodeTimestamp
        (String.ofList ['\t'] ++
          (Json.number (.ofInt 170141183460469231731687303715884105728)).text ++
          String.ofList ['\r']) = .error .malformed ∧
      ∃ e, decodeText decodePaging
        (String.ofList [] ++
          (Json.object (.ofList
            [("sort", .null), (pageSizeKey, .number (.ofInt 2147483648))])).text ++
          String.ofList ['\n']) = .error e := by
  constructor
  · have hs := paddedAs_text (j := .number (.ofInt 170141183460469231731687303715884105728))
      ⟨_, Numeral.speltAs_ofInt _⟩ (a := ['\t']) (b := ['\r']) (by simp [Blank, isBlank])
      (by simp [Blank, isBlank])
    exact (texts_read_back.2 _ _ (Numeral.integer?_ofInt _)).1 _ hs (by decide)
  · have hs := paddedAs_text
      (j := .object (.ofList [("sort", .null), (pageSizeKey, .number (.ofInt 2147483648))]))
      ⟨trivial, ⟨_, Numeral.speltAs_ofInt _⟩, trivial⟩ blank_nil (b := ['\n'])
      (by simp [Blank, isBlank])
    exact (texts_read_back.2 _ _ (Numeral.integer?_ofInt 2147483648)).2 _ _ hs
      (.named (List.mem_cons_of_mem _ List.mem_cons_self) (.inr rfl)) (by decide)

end Criteria.Json
