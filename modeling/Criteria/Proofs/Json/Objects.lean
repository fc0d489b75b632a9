import Criteria.Proofs.Except
import Criteria.Proofs.Json.Integers

/-!
# Reading options and pages from an object

Members are read one after the other, and what they come to depends on the values under each name
alone (`decodePagingMembers_eq_ok_iff`, `decodeOptionsMembers_eq_ok_iff`): a field that is named
once has the meaning of its value, one that is missing its default, and one that is named twice
none.  Pages pass over other names and whatever stands under them, options refuse them.

Together with the grammar this says what a text with an object in it is taken for
(`object_fields_read`).
-/

namespace Criteria.Json

variable {α : Type}

/-! ## Values under a name -/

/-- The values under a name, in order. -/
def valuesOf (key : String) (members : List (String × Json)) : List Json :=
  (members.filter fun m => m.1 = key).map Prod.snd

theorem valuesOf_cons_self (key : String) (value : Json) (members : List (String × Json)) :
    valuesOf key ((key, value) :: members) = value :: valuesOf key members := by
  simp [valuesOf]

theorem valuesOf_cons_of_ne {key key' : String} (h : key' ≠ key) (value : Json)
    (members : List (String × Json)) :
    valuesOf key ((key', value) :: members) = valuesOf key members := by
  simp [valuesOf, h]

theorem mem_valuesOf_iff {key : String} {members : List (String × Json)} {value : Json} :
    value ∈ valuesOf key members ↔ (key, value) ∈ members := by
  simp [valuesOf]

theorem length_valuesOf (key : String) (members : List (String × Json)) :
    (valuesOf key members).length = (members.map Prod.fst).count key := by
  unfold valuesOf
  rw [List.length_map, List.count_eq_countP, List.countP_map, List.countP_eq_length_filter]
  rfl

/-- What a field comes to: the value met before its members are read, or else the meaning of the
only value under its name, or else the default.  Two values make it nothing. -/
inductive FieldRead (means : Json → α → Prop) (default : α) : Option α → List Json → α → Prop where
  | missing : FieldRead means default none [] default
  | earlier {x : α} : FieldRead means default (some x) [] x
  | only {value : Json} {x : α} (hmeans : means value x) : FieldRead means default none [value] x

variable {means : Json → α → Prop} {default : α}

theorem fieldRead_nil_iff {found : Option α} {x : α} :
    FieldRead means default found [] x ↔ found.getD default = x := by
  constructor
  · intro h
    cases h <;> rfl
  · rintro rfl
    cases found
    · exact .missing
    · exact .earlier

theorem fieldRead_cons_iff {found : Option α} {value : Json} {values : List Json} {x : α} :
    FieldRead means default found (value :: values) x ↔
      found = none ∧ ∃ y, means value y ∧ FieldRead means default (some y) values x := by
  constructor
  · intro h
    cases h with
    | only hmeans => exact ⟨rfl, x, hmeans, .earlier⟩
  · rintro ⟨rfl, y, hmeans, hrest⟩
    cases hrest
    exact .only hmeans

theorem FieldRead.length_le {found : Option α} {values : List Json} {x : α}
    (h : FieldRead means default found values x) : values.length ≤ 1 := by
  cases h <;> simp

theorem FieldRead.means_of_mem {values : List Json} {x : α}
    (h : FieldRead means default none values x) {value : Json} (hvalue : value ∈ values) :
    means value x := by
  cases h with
  | missing => cases hvalue
  | only hmeans => exact List.mem_singleton.1 hvalue ▸ hmeans

/-! ## Members one by one -/

theorem decodePagingMembers_eq_ok_iff {start size : Option Int32}
    {members : List (String × Json)} {p : Paging} :
    decodePagingMembers start size (.ofList members) = .ok p ↔
      FieldRead IsInt32 (-1) start (valuesOf startingIndexKey members) p.startingIndex ∧
        FieldRead IsInt32 (-1) size (valuesOf pageSizeKey members) p.pageSize ∧
        ∀ m ∈ members, m.1 ≠ startingIndexKey → m.1 ≠ pageSizeKey → m.2.isIntact = true := by
  -- what was found before the members is part of what is proved: a second value is refused by it
  induction members generalizing start size with
  | nil =>
    obtain ⟨startingIndex, pageSize⟩ := p
    simp [valuesOf, fieldRead_nil_iff, Members.ofList, decodePagingMembers]
  | cons m members ih =>
    obtain ⟨key, value⟩ := m
    have hkeys : startingIndexKey ≠ pageSizeKey := by decide
    unfold Members.ofList decodePagingMembers
    rw [List.forall_mem_cons]
    by_cases hstart : key = startingIndexKey
    · subst hstart
      rw [if_pos rfl, valuesOf_cons_self, valuesOf_cons_of_ne hkeys, fieldRead_cons_iff]
      cases start with
      | some _ => simp
      | none =>
        simp only [Option.isSome_none, Bool.false_eq_true, if_false, bind_eq_ok_iff,
          decodeInt32_eq_ok_iff, ih, ne_eq, not_true_eq_false, false_implies, true_and]
        rw [← exists_and_right]
        simp only [and_assoc]
    · by_cases hsize : key = pageSizeKey
      · subst hsize
        rw [if_neg hkeys.symm, if_pos rfl, valuesOf_cons_self, valuesOf_cons_of_ne hkeys.symm,
          fieldRead_cons_iff]
        cases size with
        | some _ => simp
        | none =>
          simp only [Option.isSome_none, Bool.false_eq_true, if_false, bind_eq_ok_iff,
            decodeInt32_eq_ok_iff, ih, ne_eq, not_true_eq_false, false_implies, implies_true,
            true_and]
          rw [← exists_and_right, ← exists_and_left]
          simp only [and_assoc, and_left_comm]
      · rw [if_neg hstart, if_neg hsize, valuesOf_cons_of_ne hstart, valuesOf_cons_of_ne hsize]
        cases hvalue : value.isIntact with
        | true => simp [ih]
        | false => simp [hstart, hsize]

theorem decodeOptionsMembers_eq_ok_iff {found : Option Bool} {members : List (String × Json)}
    {o : Options} :
    decodeOptionsMembers found (.ofList members) = .ok o ↔
      FieldRead IsBool false found (valuesOf optimisticKey members)
          o.optimistic ∧
        ∀ m ∈ members, m.1 = optimisticKey := by
  induction members generalizing found with
  | nil =>
    obtain ⟨optimistic⟩ := o
    simp [valuesOf, fieldRead_nil_iff, Members.ofList, decodeOptionsMembers]
  | cons m members ih =>
    obtain ⟨key, value⟩ := m
    unfold Members.ofList decodeOptionsMembers
    rw [List.forall_mem_cons]
    by_cases hkey : key = optimisticKey
    · subst hkey
      rw [valuesOf_cons_self, fieldRead_cons_iff]
      cases found with
      | some _ => simp
      | none =>
        simp only [Option.isSome_none, Bool.false_eq_true, if_false, bind_eq_ok_iff,
          decodeBool_eq_ok_iff, ih, ne_eq, not_true_eq_false, true_and]
        rw [← exists_and_right]
        simp only [and_assoc]
    · simp [hkey]

/-- Only objects whose names are texts are taken for pages. -/
theorem exists_ofList_of_decodePagingMembers {start size : Option Int32} {members : Members}
    {p : Paging} (h : decodePagingMembers start size members = .ok p) :
    ∃ named, members = .ofList named := by
  match members with
  | .nil => exact ⟨[], rfl⟩
  | .cons key value rest =>
    have hread : ∃ name start' size', key = .string (some name) ∧
        decodePagingMembers start' size' rest = .ok p := by
      unfold decodePagingMembers at h
      split at h
      · next heq => cases heq
      · next name _ _ heq =>
        cases heq
        split at h
        · split at h
          · cases h
          · obtain ⟨x, -, hrest⟩ := bind_eq_ok_iff.1 h
            exact ⟨name, some x, size, rfl, hrest⟩
        · split at h
          · split at h
            · cases h
            · obtain ⟨x, -, hrest⟩ := bind_eq_ok_iff.1 h
              exact ⟨name, start, some x, rfl, hrest⟩
          · split at h
            · exact ⟨name, start, size, rfl, h⟩
            · cases h
      · cases h
    obtain ⟨name, _, _, rfl, hrest⟩ := hread
    obtain ⟨named, rfl⟩ := exists_ofList_of_decodePagingMembers hrest
    exact ⟨(name, value) :: named, rfl⟩

/-- Only objects whose names are texts are taken for options. -/
theorem exists_ofList_of_decodeOptionsMembers {found : Option Bool} {members : Members}
    {o : Options} (h : decodeOptionsMembers found members = .ok o) :
    ∃ named, members = .ofList named := by
  match members with
  | .nil => exact ⟨[], rfl⟩
  | .cons key value rest =>
    have hread : ∃ name found', key = .string (some name) ∧
        decodeOptionsMembers found' rest = .ok o := by
      unfold decodeOptionsMembers at h
      split at h
      · next heq => cases heq
      · next name _ _ heq =>
        cases heq
        split at h
        · cases h
        · split at h
          · cases h
          · obtain ⟨b, -, hrest⟩ := bind_eq_ok_iff.1 h
            exact ⟨name, some b, rfl, hrest⟩
      · cases h
    obtain ⟨name, _, rfl, hrest⟩ := hread
    obtain ⟨named, rfl⟩ := exists_ofList_of_decodeOptionsMembers hrest
    exact ⟨(name, value) :: named, rfl⟩

/-! ## Names that are not repeated -/

/-- What members say of a field: the meaning of the value under its name, or the default where the
name is missing. -/
def Says (members : List (String × Json)) (means : Json → α → Prop) (default : α) (key : String)
    (x : α) : Prop :=
  (∃ value, (key, value) ∈ members ∧ means value x) ∨
    key ∉ members.map Prod.fst ∧ x = default

theorem valuesOf_eq_nil {key : String} {members : List (String × Json)}
    (h : key ∉ members.map Prod.fst) : valuesOf key members = [] := by
  refine List.eq_nil_iff_forall_not_mem.2 fun value hvalue => h ?_
  exact List.mem_map.2 ⟨(key, value), mem_valuesOf_iff.1 hvalue, rfl⟩

theorem valuesOf_eq_singleton {key : String} {members : List (String × Json)} {value : Json}
    (hnodup : (members.map Prod.fst).Nodup) (h : (key, value) ∈ members) :
    valuesOf key members = [value] := by
  have hcount : (valuesOf key members).length ≤ 1 := by
    rw [length_valuesOf]
    exact List.nodup_iff_count.1 hnodup key
  have hmem := mem_valuesOf_iff.2 h
  match hvalues : valuesOf key members with
  | [] =>
    rw [hvalues] at hmem
    cases hmem
  | [first] =>
    rw [hvalues] at hmem
    rw [List.mem_singleton.1 hmem]
  | _ :: _ :: _ =>
    rw [hvalues] at hcount
    simp at hcount

theorem says_iff_of_mem {key : String} {members : List (String × Json)} {value : Json} {x : α}
    (hnodup : (members.map Prod.fst).Nodup) (hmem : (key, value) ∈ members) :
    Says members means default key x ↔ means value x := by
  constructor
  · rintro (⟨value', hmem', hmeans⟩ | ⟨hmissing, -⟩)
    · have hsame := valuesOf_eq_singleton hnodup hmem
      rw [valuesOf_eq_singleton hnodup hmem', List.cons.injEq] at hsame
      exact hsame.1 ▸ hmeans
    · exact absurd (List.mem_map.2 ⟨(key, value), hmem, rfl⟩) hmissing
  · exact fun hmeans => .inl ⟨value, hmem, hmeans⟩

theorem says_iff_of_not_mem {key : String} {members : List (String × Json)} {x : α}
    (hmissing : key ∉ members.map Prod.fst) : Says members means default key x ↔ x = default := by
  constructor
  · rintro (⟨value, hmem, -⟩ | ⟨-, hx⟩)
    · exact absurd (List.mem_map.2 ⟨(key, value), hmem, rfl⟩) hmissing
    · exact hx
  · exact fun hx => .inr ⟨hmissing, hx⟩

theorem exists_says_iff {key : String} {members : List (String × Json)}
    (hnodup : (members.map Prod.fst).Nodup) :
    (∃ x, Says members means default key x) ↔ ∀ m ∈ members, m.1 = key → ∃ x, means m.2 x := by
  constructor
  · rintro ⟨x, hx⟩ ⟨_, value⟩ hmem rfl
    exact ⟨x, (says_iff_of_mem hnodup hmem).1 hx⟩
  · intro h
    by_cases hkey : key ∈ members.map Prod.fst
    · obtain ⟨m, hmem, rfl⟩ := List.mem_map.1 hkey
      obtain ⟨x, hmeans⟩ := h m hmem rfl
      exact ⟨x, .inl ⟨m.2, hmem, hmeans⟩⟩
    · exact ⟨default, .inr ⟨hkey, rfl⟩⟩

theorem says_congr {key : String} {members members' : List (String × Json)} {x : α}
    (h : ∀ value, (key, value) ∈ members' ↔ (key, value) ∈ members) :
    Says members' means default key x ↔ Says members means default key x := by
  have hkeys : key ∈ members'.map Prod.fst ↔ key ∈ members.map Prod.fst := by
    simp [h]
  simp only [Says, h, hkeys]

theorem fieldRead_none_iff {members : List (String × Json)}
    (hnodup : (members.map Prod.fst).Nodup) {key : String} {x : α} :
    FieldRead means default none (valuesOf key members) x ↔ Says members means default key x := by
  by_cases hkey : key ∈ members.map Prod.fst
  · obtain ⟨m, hmem, rfl⟩ := List.mem_map.1 hkey
    rw [valuesOf_eq_singleton hnodup hmem, says_iff_of_mem hnodup hmem]
    constructor
    · rintro (_ | _ | hmeans)
      exact hmeans
    · exact .only
  · rw [valuesOf_eq_nil hkey, fieldRead_nil_iff, says_iff_of_not_mem hkey]
    exact eq_comm

/-! ## Texts -/

/-- Whether a text spells an object with the given members, in their order. -/
def SpellsObject (s : String) (members : List (String × Json)) : Prop :=
  (Json.object (.ofList members)).PaddedAs s.toList

theorem decodeText_of_paddedAs {decode : Decoder α} {j : Json} {s : String}
    (h : j.PaddedAs s.toList) : decodeText decode s = decode j := by
  simp only [decodeText, read_of_paddedAs h, if_true]
  cases decode j <;> rfl

theorem forall_isIntact_of_ofList {members : List (String × Json)}
    (h : (Members.ofList members).isIntact = true) : ∀ m ∈ members, m.2.isIntact = true := by
  induction members with
  | nil => exact List.forall_mem_nil _
  | cons m members ih =>
    simp only [Members.ofList, Members.isIntact, isIntact, Bool.and_eq_true, true_and] at h
    exact List.forall_mem_cons.2 ⟨h.1, ih h.2⟩

section

variable {s : String} {members : List (String × Json)}

theorem SpellsObject.paging_eq_ok_iff (hs : SpellsObject s members) {p : Paging} :
    decodeText decodePaging s = .ok p ↔
      FieldRead IsInt32 (-1) none (valuesOf startingIndexKey members) p.startingIndex ∧
        FieldRead IsInt32 (-1) none (valuesOf pageSizeKey members) p.pageSize := by
  have hintact := forall_isIntact_of_ofList (isIntact_of_paddedAs hs)
  rw [decodeText_of_paddedAs hs, decodePaging, decodePagingMembers_eq_ok_iff]
  exact and_congr_right' (and_iff_left fun m hm _ _ => hintact m hm)

theorem SpellsObject.options_eq_ok_iff (hs : SpellsObject s members) {o : Options} :
    decodeText decodeOptions s = .ok o ↔
      FieldRead IsBool false none (valuesOf optimisticKey members)
          o.optimistic ∧
        ∀ m ∈ members, m.1 = optimisticKey := by
  rw [decodeText_of_paddedAs hs, decodeOptions, decodeOptionsMembers_eq_ok_iff]

theorem SpellsObject.exists_paging_iff (hs : SpellsObject s members)
    (hnodup : (members.map Prod.fst).Nodup) :
    (∃ p, decodeText decodePaging s = .ok p) ↔
      ∀ m ∈ members, m.1 = startingIndexKey ∨ m.1 = pageSizeKey → ∃ x, m.2.IsInt32 x := by
  simp only [hs.paging_eq_ok_iff, fieldRead_none_iff hnodup]
  constructor
  · rintro ⟨p, hstart, hsize⟩ m hm (hkey | hkey)
    · exact (exists_says_iff hnodup).1 ⟨_, hstart⟩ m hm hkey
    · exact (exists_says_iff hnodup).1 ⟨_, hsize⟩ m hm hkey
  · intro h
    obtain ⟨start, hstart⟩ : ∃ x, Says members IsInt32 (-1) startingIndexKey x :=
      (exists_says_iff hnodup).2 fun m hm hkey => h m hm (.inl hkey)
    obtain ⟨size, hsize⟩ : ∃ x, Says members IsInt32 (-1) pageSizeKey x :=
      (exists_says_iff hnodup).2 fun m hm hkey => h m hm (.inr hkey)
    exact ⟨⟨start, size⟩, hstart, hsize⟩

theorem SpellsObject.exists_options_iff (hs : SpellsObject s members)
    (hnodup : (members.map Prod.fst).Nodup) :
    (∃ o, decodeText decodeOptions s = .ok o) ↔
      ∀ m ∈ members, m.1 = optimisticKey ∧ ∃ b, m.2.IsBool b := by
  simp only [hs.options_eq_ok_iff, fieldRead_none_iff hnodup]
  constructor
  · rintro ⟨o, hsays, hkeys⟩ m hm
    exact ⟨hkeys m hm, (exists_says_iff hnodup).1 ⟨_, hsays⟩ m hm (hkeys m hm)⟩
  · intro h
    obtain ⟨b, hb⟩ : ∃ b, Says members IsBool false optimisticKey b :=
      (exists_says_iff hnodup).2 fun m hm _ => (h m hm).2
    exact ⟨⟨b⟩, hb, fun m hm => (h m hm).1⟩

end

/-- **Options and pages read from an object.**  Let a text spell an object, with blanks around any
part, values of any depth and names that are texts (an escape for half of a surrogate pair spells
none, and no object with one is taken for either: `exists_ofList_of_decodePagingMembers` and
`exists_ofList_of_decodeOptionsMembers`).  If no name is repeated, the text is taken for a page
exactly if the two fields, where they are there, spell integers of 32 bits; the page holds these,
with -1 for what is missing, and any text with the same two fields has the same page.  It is taken
for options exactly if every name is the one known and has a truth value.  Other names are never
taken for options, and a field that is repeated is always refused. -/
theorem object_fields_read {s : String} {members : List (String × Json)}
    (hs : SpellsObject s members) :
    ((members.map Prod.fst).Nodup →
      ((∃ p, decodeText decodePaging s = .ok p) ↔
        ∀ m ∈ members, m.1 = startingIndexKey ∨ m.1 = pageSizeKey → ∃ x, m.2.IsInt32 x) ∧
      (∀ p, decodeText decodePaging s = .ok p ↔
        Says members IsInt32 (-1) startingIndexKey p.startingIndex ∧
          Says members IsInt32 (-1) pageSizeKey p.pageSize) ∧
      (∀ s' members', SpellsObject s' members' → (members'.map Prod.fst).Nodup →
        (∀ key value, key = startingIndexKey ∨ key = pageSizeKey →
          ((key, value) ∈ members' ↔ (key, value) ∈ members)) →
        ∀ p, decodeText decodePaging s' = .ok p ↔ decodeText decodePaging s = .ok p) ∧
      ((∃ o, decodeText decodeOptions s = .ok o) ↔
        ∀ m ∈ members, m.1 = optimisticKey ∧ ∃ b, m.2.IsBool b) ∧
      ∀ o, decodeText decodeOptions s = .ok o →
        Says members IsBool false optimisticKey o.optimistic) ∧
    (∀ m ∈ members, m.1 ≠ optimisticKey → ∃ e, decodeText decodeOptions s = .error e) ∧
    (∀ key, 2 ≤ (members.map Prod.fst).count key →
      (key = startingIndexKey ∨ key = pageSizeKey → ∃ e, decodeText decodePaging s = .error e) ∧
      (key = optimisticKey → ∃ e, decodeText decodeOptions s = .error e)) := by
  refine ⟨fun hnodup => ⟨hs.exists_paging_iff hnodup, ?_, ?_, hs.exists_options_iff hnodup, ?_⟩,
    ?_, ?_⟩
  · intro p
    rw [hs.paging_eq_ok_iff, fieldRead_none_iff hnodup, fieldRead_none_iff hnodup]
  · intro s' members' hs' hnodup' hsame p
    rw [hs.paging_eq_ok_iff, hs'.paging_eq_ok_iff]
    simp only [fieldRead_none_iff hnodup, fieldRead_none_iff hnodup']
    rw [says_congr fun value => hsame startingIndexKey value (.inl rfl),
      says_congr fun value => hsame pageSizeKey value (.inr rfl)]
  · intro o ho
    exact (fieldRead_none_iff hnodup).1 (hs.options_eq_ok_iff.1 ho).1
  · intro m hm hkey
    refine eq_error_of_ne_ok fun o ho => hkey ?_
    exact (hs.options_eq_ok_iff.1 ho).2 m hm
  · intro key htwice
    rw [← length_valuesOf] at htwice
    constructor
    · intro hkey
      refine eq_error_of_ne_ok fun p hp => ?_
      obtain ⟨hstart, hsize⟩ := hs.paging_eq_ok_iff.1 hp
      rcases hkey with rfl | rfl
      · exact absurd hstart.length_le (by omega)
      · exact absurd hsize.length_le (by omega)
    · rintro rfl
      refine eq_error_of_ne_ok fun o ho => ?_
      exact absurd (hs.options_eq_ok_iff.1 ho).1.length_le (by omega)

/-- A page with its fields the other way round and a list between them, and options that hold their
field twice. -/
theorem object_fields_read_reordered :
    decodeText decodePaging
        (String.ofList ['\n'] ++
          (Json.object (.ofList [(pageSizeKey, .number (.ofInt (-5))),
            ("sort", .array (.cons .null .nil)), (startingIndexKey, .number (.ofInt 7))])).text ++
          String.ofList [' ']) = .ok ⟨7, -5⟩ ∧
      ∃ e, decodeText decodeOptions
        (String.ofList [] ++
          (Json.object (.ofList [(optimisticKey, .bool true), (optimisticKey, .bool true)])).text ++
          String.ofList []) = .error e := by
  constructor
  · have hs : SpellsObject _ _ := paddedAs_text
      (j := .object (.ofList [(pageSizeKey, .number (.ofInt (-5))),
        ("sort", .array (.cons .null .nil)), (startingIndexKey, .number (.ofInt 7))]))
      ⟨⟨_, Numeral.speltAs_ofInt _⟩, ⟨trivial, trivial⟩, ⟨_, Numeral.speltAs_ofInt _⟩, trivial⟩
      (a := ['\n']) (b := [' ']) (by simp [Blank, isBlank]) (by simp [Blank, isBlank])
    refine (((object_fields_read hs).1 (by decide)).2.1 ⟨7, -5⟩).2 ⟨?_, ?_⟩
    · exact .inl ⟨_, by simp, _, rfl, Numeral.integer?_ofInt 7, by decide⟩
    · exact .inl ⟨_, by simp, _, rfl, Numeral.integer?_ofInt (-5), by decide⟩
  · have hs : SpellsObject _ _ := paddedAs_text
      (j := .object (.ofList [(optimisticKey, .bool true), (optimisticKey, .bool true)]))
      ⟨trivial, trivial, trivial⟩ blank_nil blank_nil
    exact ((object_fields_read hs).2.2 optimisticKey (by decide)).2 rfl

end Criteria.Json
