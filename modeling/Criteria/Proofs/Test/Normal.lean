import Criteria.Proofs.Synthesis.Leaves
import Criteria.Proofs.Text.Settled

/-!
# Texts of tests are in normal form

A test built from raw values holds texts in the normal form of its case, and so does every leaf of a
synthesized formula; built anew from the texts that it holds, such a test is the same test
(`Test.rebuilt_eq_iff`).  A test that ignores case and holds other texts can be written down, but
what it asks for is the lowercase of no text (`Test.exists_textEquals_accepts_iff`,
`Test.exists_oneOf_accepts_iff`).
-/

namespace Criteria

namespace Test

/-! ## Texts and case of a test -/

/-- The texts that a test holds. -/
def texts : Test → List String
  | textEquals value _ | textContains value _ => [value]
  | oneOf values _ | overlaps values _ => values
  | date .. => []

/-- The case by which a test compares texts. -/
def case? : Test → Option Case
  | textEquals _ case | textContains _ case | oneOf _ case | overlaps _ case => some case
  | date .. => none

/-- The test built anew from the values that a test holds. -/
def rebuilt : Test → Test
  | textEquals value case => equalTo value case
  | textContains value case => containing value case
  | oneOf values case => amongst values case
  | overlaps values case => sharing values case
  | date op value nullable => date op value nullable

/-- Every text of a test is in the normal form of the test's case. -/
def Normal (test : Test) : Prop :=
  ∀ case, test.case? = some case → ∀ s ∈ test.texts, case.normalize s = s

theorem map_normalize_eq_self_iff {case : Case} {values : List String} :
    values.map case.normalize = values ↔ ∀ s ∈ values, case.normalize s = s := by
  simpa using List.map_inj_left (f := case.normalize) (g := id) (l := values)

theorem rebuilt_eq_iff {test : Test} : test.rebuilt = test ↔ test.Normal := by
  cases test with
  | textEquals value case => simp [rebuilt, equalTo, Normal, case?, texts]
  | textContains value case => simp [rebuilt, containing, Normal, case?, texts]
  | oneOf values case =>
    simp [rebuilt, amongst, Normal, case?, texts, map_normalize_eq_self_iff]
  | overlaps values case =>
    simp [rebuilt, sharing, Normal, case?, texts, map_normalize_eq_self_iff]
  | date op value nullable => simp [rebuilt, Normal, case?]

/-! ## Tests built from raw values -/

variable {case : Case} {test : Test}

theorem normal_of_texts_eq (values : List String) (hcase : test.case? = some case)
    (htexts : test.texts = values.map case.normalize) : test.Normal := by
  intro c hc s hs
  rw [hcase] at hc
  cases hc
  rw [htexts] at hs
  obtain ⟨value, -, rfl⟩ := List.mem_map.1 hs
  exact case.normalize_normalize value

theorem normal_equalTo (value : String) : (equalTo value case).Normal :=
  normal_of_texts_eq [value] rfl rfl

theorem normal_containing (value : String) : (containing value case).Normal :=
  normal_of_texts_eq [value] rfl rfl

theorem normal_amongst (values : List String) : (amongst values case).Normal :=
  normal_of_texts_eq values rfl rfl

theorem normal_sharing (values : List String) : (sharing values case).Normal :=
  normal_of_texts_eq values rfl rfl

theorem normal_date (op : DateOp) (value : Timestamp) (nullable : Bool) :
    (date op value nullable).Normal := by
  -- a date test compares by no case
  intro c hc
  cases hc

end Test

theorem Rules.normal_of_test? {rules : Rules} {reading : Reading} {kind : Kind} {test : Test}
    (h : rules.test? reading kind = some test) : test.Normal := by
  unfold test? at h
  split at h
  · split at h <;> cases h
    · exact Test.normal_equalTo _
    · exact Test.normal_containing _
  · cases h; exact Test.normal_amongst _
  · cases h; exact Test.normal_sharing _
  · cases h; exact Test.normal_date _ _ _
  · cases h; exact Test.normal_date _ _ _
  · cases h

theorem Filter.normal_of_mem_leaves {schema : Schema} {options : Options} {f : Filter}
    {p : Formula} (h : f.synthesize schema options = .ok (some p)) {a : Atom} (ha : a ∈ p.leaves) :
    a.test.Normal := by
  obtain ⟨c, -, kind, -, -, htest⟩ := exists_criterion_of_mem_leaves h ha
  exact Rules.normal_of_test? htest

namespace Test

/-! ## Tests that can be met -/

/-- Some text meets an equality that ignores case exactly if its value is in lowercase. -/
theorem exists_textEquals_accepts_iff {value : String} :
    (∃ s, (textEquals value .insensitive).accepts (.text s) = true) ↔
      Text.lowercase value = value := by
  simp only [accepts, Case.normalize, beq_iff_eq]
  constructor
  · rintro ⟨s, rfl⟩
    exact Text.lowercase_lowercase s
  · intro h
    exact ⟨value, h⟩

/-- Some text meets a membership that ignores case exactly if one of its values is in lowercase. -/
theorem exists_oneOf_accepts_iff {values : List String} :
    (∃ s, (oneOf values .insensitive).accepts (.text s) = true) ↔
      ∃ value ∈ values, Text.lowercase value = value := by
  simp only [accepts, Case.normalize, List.contains_iff_mem]
  constructor
  · rintro ⟨s, hs⟩
    exact ⟨Text.lowercase s, hs, Text.lowercase_lowercase s⟩
  · rintro ⟨value, hvalue, h⟩
    refine ⟨value, ?_⟩
    rw [h]
    exact hvalue

/-- **The texts of tests are in normal form.**  Normalizing a text twice is normalizing it once.  So
the texts of a test built from raw values, and those of every leaf of a synthesized formula, are in
the normal form of the test's case, and the test built anew from them is the same test.  A test that
ignores case and was not built from raw values can be met exactly if its value is in lowercase, or
one of its values is. -/
theorem texts_normal :
    (∀ (case : Case) (s : String), case.normalize (case.normalize s) = case.normalize s) ∧
      (∀ (case : Case) (value : String) (values : List String),
        ∀ test ∈ [equalTo value case, containing value case, amongst values case,
            sharing values case],
          test.Normal ∧ test.rebuilt = test) ∧
      (∀ (schema : Schema) (options : Options) (f : Filter) (p : Formula),
        f.synthesize schema options = .ok (some p) →
          ∀ a ∈ p.leaves, a.test.Normal ∧ a.test.rebuilt = a.test) ∧
      (∀ value : String, (∃ s, (textEquals value .insensitive).accepts (.text s) = true) ↔
        Text.lowercase value = value) ∧
      (∀ values : List String, (∃ s, (oneOf values .insensitive).accepts (.text s) = true) ↔
        ∃ value ∈ values, Text.lowercase value = value) := by
  have hboth : ∀ {test : Test}, test.Normal → test.Normal ∧ test.rebuilt = test :=
    fun h => ⟨h, rebuilt_eq_iff.2 h⟩
  refine ⟨Case.normalize_normalize, fun case value values test htest => hboth ?_,
    fun schema options f p h a ha => hboth (Filter.normal_of_mem_leaves h ha),
    fun value => exists_textEquals_accepts_iff, fun values => exists_oneOf_accepts_iff⟩
  simp only [List.mem_cons, List.not_mem_nil, or_false] at htest
  rcases htest with rfl | rfl | rfl | rfl
  · exact normal_equalTo value
  · exact normal_containing value
  · exact normal_amongst values
  · exact normal_sharing values

/-- A capital sigma that ends a word gets its final form in the leaf, and keeps it there. -/
theorem texts_normal_final_sigma :
    let schema := Schema.ofColumns [("title", .text true)]
    let f := Filter.ofRows
      [(⟨"title", .text, { case := .insensitive }⟩, .text (some "ΟΔΟΣ"))] {}
    ∃ p, f.synthesize schema {} = .ok (some p) ∧
      p.leaves = [⟨"title", .textEquals "οδος" .insensitive⟩] ∧
      ∀ a ∈ p.leaves, a.test.Normal ∧ a.test.rebuilt = a.test := by
  intro schema f
  have hok : ∃ p, f.synthesize schema {} = .ok (some p) ∧
      p.leaves = [⟨"title", .textEquals "οδος" .insensitive⟩] :=
    ⟨.leaf ⟨"title", .textEquals "οδος" .insensitive⟩, by decide, rfl⟩
  obtain ⟨p, h, hleaves⟩ := hok
  exact ⟨p, h, hleaves, texts_normal.2.2.1 schema {} f p h⟩

end Test

end Criteria
