import Criteria.Proofs.Synthesis.Step
import Criteria.Proofs.Table

/-!
# Tables that fit a schema

Whether every filter with a table can be compiled for a schema shows on the table alone.  Filters
hold values of the declared kinds (`Filter.Typed`), and a usable table has a filter whose values all
take part (`Table.exists_typed_present`); that one filter meets whatever offence the table has
(`Scanned.offends_iff_not_fits`).

* `Filter.synthesizes_iff_fits`: all filters with the table compile exactly if each row fits.
* `Table.compatible_iff`: the rows that fit, for strict and for optimistic synthesis.
-/

namespace Criteria

/-- Whether a filter's values of a kind can be compared with a record's field of a kind. -/
def Kind.suits : Kind → Kind → Bool
  | text, text => true
  | textList, text => true
  | textList, textList => true
  | optionalDate, date => true
  | optionalDate, optionalDate => true
  | _, _ => false

namespace Reading

theorem pairsWith_eq_suits {reading : Reading} {k : Kind} (h : reading.kind? = some k)
    (kind : Kind) : reading.pairsWith kind = k.suits kind := by
  cases reading with
  | text value => cases h; cases kind <;> rfl
  | textList values => cases h; cases kind <;> rfl
  | date value => cases h; cases kind <;> rfl
  | unreadable => cases h

/-- The readings of a kind are those of the values of the entry types of that kind. -/
theorem kind?_eq_some_iff {reading : Reading} {k : Kind} :
    reading.kind? = some k ↔
      ∃ (type : EntryType) (value : Scalar),
        type.kind = k ∧ type.reading? value = some reading := by
  constructor
  · intro h
    cases reading with
    | text value =>
      cases h
      cases value with
      | none => exact ⟨.text true, .null, rfl, rfl⟩
      | some s => exact ⟨.text true, .text s, rfl, rfl⟩
    | textList values =>
      cases h
      cases values with
      | none => exact ⟨.textList true, .null, rfl, rfl⟩
      | some l => exact ⟨.textList true, .textList l, rfl, rfl⟩
    | date value =>
      cases h
      cases value with
      | none => exact ⟨.date .timestamp, .null, rfl, rfl⟩
      | some t => exact ⟨.date .timestamp, .dated (.timestamp t), rfl, rfl⟩
    | unreadable => cases h
  · rintro ⟨type, value, rfl, h⟩
    unfold EntryType.reading? at h
    split at h
    -- a dating in another form than the type's has no reading
    case h_5 =>
      split at h
      · cases h; rfl
      · cases h
    all_goals cases h
    all_goals rfl

end Reading

namespace Kind

/-- A value of a filterable kind that takes part even where empty ones do not. -/
def sample : Kind → Reading
  | text => .text (some "x")
  | textList => .textList (some ["x"])
  | optionalDate => .date (some (Timestamp.ofSeconds 0))
  | date | number | bool => .unreadable

theorem kind?_sample {k : Kind} (h : k.isFilterable = true) : k.sample.kind? = some k := by
  cases k with
  | text | textList | optionalDate => rfl
  | date | number | bool => cases h

theorem isPresent_sample {k : Kind} (h : k.isFilterable = true) (ignoreIfEmpty : Bool) :
    k.sample.isPresent ignoreIfEmpty = true := by
  cases k with
  | text | textList | optionalDate => rfl
  | date | number | bool => cases h

end Kind

/-! ## One criterion -/

/-- Whether a criterion can be compiled for a schema whatever its value. -/
def Criterion.Fits (schema : Schema) (options : Options) (c : Criterion) : Prop :=
  c.rules.skipSynthesis = false →
    match schema c.target with
    | none => options.optimistic = true
    | some kind => c.kind.suits kind = true

namespace Scanned

variable {schema : Schema} {options : Options} {s : Scanned}

theorem not_offends_of_fits (hkind : s.reading.kind? = some s.criterion.kind)
    (h : s.criterion.Fits schema options) : ¬ s.Offends schema options := by
  rintro ⟨fault, hoffence⟩
  cases hoffence with
  | untargeted hskip htarget hstrict =>
    have hfits := h hskip
    rw [htarget] at hfits
    exact absurd (hfits.symm.trans hstrict) (by decide)
  | unpaired hskip htarget _ hpair =>
    have hfits := h hskip
    rw [htarget] at hfits
    rw [Reading.pairsWith_eq_suits hkind] at hpair
    exact absurd (hfits.symm.trans hpair) (by decide)

/-- A value that takes part stops the synthesis exactly if its criterion does not fit. -/
theorem offends_iff_not_fits (hkind : s.reading.kind? = some s.criterion.kind)
    (hpresent : s.isPresent = true) :
    s.Offends schema options ↔ ¬ s.criterion.Fits schema options := by
  refine ⟨fun hoffends hfits => not_offends_of_fits hkind hfits hoffends, fun h => ?_⟩
  unfold Criterion.Fits at h
  obtain ⟨hskip, hfits⟩ := Classical.not_imp.1 h
  split at hfits
  · next htarget =>
    exact ⟨_, .untargeted hskip htarget (Bool.not_eq_true _ ▸ hfits)⟩
  · next kind htarget =>
    rw [← Reading.pairsWith_eq_suits hkind, Bool.not_eq_true] at hfits
    exact ⟨_, .unpaired hskip htarget hpresent hfits⟩

end Scanned

/-! ## All filters with a table -/

/-- Where no key occurs twice, an item is the first one with its key. -/
theorem find?_key_eq_some {α : Type} {key : α → String} {l : List α} (h : (l.map key).Nodup)
    {a : α} (ha : a ∈ l) : l.find? (fun b => key b == key a) = some a := by
  induction l with
  | nil => cases ha
  | cons first rest ih =>
    obtain ⟨hfirst, hrest⟩ := List.nodup_cons.1 h
    rcases List.mem_cons.1 ha with rfl | ha
    · exact List.find?_cons_of_pos (by simp)
    · have hne : key first ≠ key a := fun heq => hfirst (List.mem_map.2 ⟨a, ha, heq.symm⟩)
      rw [List.find?_cons_of_neg (by simpa using hne)]
      exact ih hrest ha

namespace Filter

/-- Whether the values that a filter holds are of the kinds that its criteria declare. -/
def Typed (f : Filter) : Prop :=
  ∀ c ∈ f.table, (f.read c.name).kind? = some c.kind

/-- Where no name occurs twice, each row of a listed filter reads its own value. -/
theorem read_ofRows {rows : List (Criterion × Reading)} {paging : Paging}
    (h : (rows.map fun row => row.1.name).Nodup) {row : Criterion × Reading} (hrow : row ∈ rows) :
    (ofRows rows paging).read row.1.name = row.2 := by
  have hfind : rows.find? (fun other => other.1.name == row.1.name) = some row :=
    find?_key_eq_some h hrow
  simp only [ofRows, hfind, Option.map_some, Option.getD_some]

end Filter

/-- A usable table has a filter with values of the declared kinds all of which take part. -/
theorem Table.exists_typed_present {t : Table} (h : t.check = .ok ()) :
    ∃ f : Filter, f.table = t ∧ f.Typed ∧ ∀ c ∈ t, (f.scanned c).isPresent = true := by
  obtain ⟨-, hrows, hnames⟩ := check_eq_ok_iff.1 h
  have hnodup : ((t.map fun c => (c, c.kind.sample)).map fun row => row.1.name).Nodup := by
    rwa [List.map_map]
  have hread : ∀ c ∈ t, (Filter.ofRows (t.map fun c => (c, c.kind.sample)) {}).read c.name
      = c.kind.sample := fun c hc => Filter.read_ofRows hnodup (List.mem_map_of_mem hc)
  have htable : (Filter.ofRows (t.map fun c => (c, c.kind.sample)) {}).table = t := by
    simp [Filter.ofRows, Function.comp_def]
  refine ⟨_, htable, fun c hc => ?_, fun c hc => ?_⟩
  · rw [htable] at hc
    rw [hread c hc]
    exact Kind.kind?_sample (hrows c hc).2
  · unfold Scanned.isPresent Filter.scanned
    rw [hread c hc]
    exact Kind.isPresent_sample (hrows c hc).2 _

namespace Filter

theorem exists_synthesize_eq_ok_iff {schema : Schema} {options : Options} {f : Filter} :
    (∃ result, f.synthesize schema options = .ok result) ↔
      ∀ c ∈ f.table, ¬ (f.scanned c).Offends schema options := by
  constructor
  · rintro ⟨result, h⟩
    exact (synthesize_eq_ok_iff.1 h).1
  · intro h
    exact ⟨_, synthesize_eq_ok_iff.2 ⟨h, rfl⟩⟩

/-- All filters with a usable table can be compiled exactly if each of its rows fits. -/
theorem synthesizes_iff_fits {t : Table} (h : t.check = .ok ()) (schema : Schema)
    (options : Options) :
    (∀ f : Filter, f.table = t → f.Typed →
        ∃ result, f.synthesize schema options = .ok result) ↔
      ∀ c ∈ t, c.Fits schema options := by
  constructor
  · intro hall c hc
    -- the filter whose values all take part is stopped by every row that does not fit
    obtain ⟨f, rfl, htyped, hpresent⟩ := Table.exists_typed_present h
    have hfree := exists_synthesize_eq_ok_iff.1 (hall f rfl htyped) c hc
    rw [Scanned.offends_iff_not_fits (htyped c hc) (hpresent c hc)] at hfree
    exact Classical.not_not.1 hfree
  · rintro hfits f rfl htyped
    exact exists_synthesize_eq_ok_iff.2 fun c hc =>
      Scanned.not_offends_of_fits (htyped c hc) (hfits c hc)

end Filter

namespace Table

/-- **A table alone shows whether its filters can be compiled.**  All of them can in strict
synthesis exactly if every row that is not left out aims at a field of the records and its kind
suits the field's; in optimistic synthesis only the rows whose target is known have to suit it. -/
theorem compatible_iff {t : Table} (h : t.check = .ok ()) (schema : Schema) :
    ((∀ f : Filter, f.table = t → f.Typed →
        ∃ result, f.synthesize schema { optimistic := false } = .ok result) ↔
      ∀ c ∈ t, c.rules.skipSynthesis = false →
        ∃ kind, schema c.target = some kind ∧ c.kind.suits kind = true) ∧
    ((∀ f : Filter, f.table = t → f.Typed →
        ∃ result, f.synthesize schema { optimistic := true } = .ok result) ↔
      ∀ c ∈ t, c.rules.skipSynthesis = false →
        ∀ kind, schema c.target = some kind → c.kind.suits kind = true) := by
  rw [Filter.synthesizes_iff_fits h, Filter.synthesizes_iff_fits h]
  refine ⟨forall₂_congr fun c _ => imp_congr_right fun _ => ?_,
    forall₂_congr fun c _ => imp_congr_right fun _ => ?_⟩
  · cases schema c.target <;> simp
  · cases schema c.target <;> simp

/-- A table with a missing target beside a list aimed at a text: every filter with it can be
compiled, but not strictly. -/
theorem compatible_iff_missing_target :
    let schema := Schema.ofColumns [("title", .text true), ("due", .date .timestamp false)]
    let t : Table := [⟨"words", .textList, { target := some "title" }⟩, ⟨"ghost", .text, {}⟩,
      ⟨"due", .optionalDate, {}⟩]
    t.check = .ok () ∧
      (∀ f : Filter, f.table = t → f.Typed →
        ∃ result, f.synthesize schema { optimistic := true } = .ok result) ∧
      ¬ ∀ f : Filter, f.table = t → f.Typed →
        ∃ result, f.synthesize schema { optimistic := false } = .ok result := by
  intro schema t
  have hcheck : t.check = .ok () := rfl
  have hcompatible := compatible_iff hcheck schema
  refine ⟨hcheck, hcompatible.2.2 ?_, fun hall => ?_⟩
  · decide
  · revert hall
    rw [hcompatible.1]
    decide

end Table

end Criteria
