import Criteria.Proofs.Synthesis.Skipping

/-!
# Rules that are not read

A synthesis reads a rule only where it has something to say: the rules for texts of texts and lists,
the comparison of instants of instants, the rule on empty values of empty values, the logic of the
leaves that are joined to others.  Two filters with the same values whose tables differ in nothing
else (`Filter.Reworded`) come to the same formula or stop with the same fault, which may report
another kind (`Filter.synthesize_reworded`).

One criterion first: a value is matched alike by rules that agree on it (`Rules.AgreeOn`), so
criteria that agree on a value take part alike, have one leaf up to its logic, and stop the
synthesis alike.  Over a table the logic matters from the second leaf on, since the first stands
alone.
-/

namespace Criteria

/-! ## One value -/

/-- Whether two sets of rules agree on those that a value is matched by.  A null value is matched by
none. -/
def Rules.AgreeOn (rules rules' : Rules) : Reading → Prop
  | .text (some value) =>
    rules'.case = rules.case ∧ rules'.textMatch = rules.textMatch ∧
      (value = "" → rules'.ignoreIfEmpty = rules.ignoreIfEmpty)
  | .textList (some values) =>
    rules'.case = rules.case ∧ (values = [] → rules'.ignoreIfEmpty = rules.ignoreIfEmpty)
  | .date (some _) => rules'.dateOp = rules.dateOp
  | _ => True

namespace Rules.AgreeOn

variable {rules rules' : Rules} {reading : Reading}

theorem symm (h : rules.AgreeOn rules' reading) : rules'.AgreeOn rules reading := by
  cases reading with
  | text value =>
    cases value with
    | none => trivial
    | some s => exact ⟨h.1.symm, h.2.1.symm, fun hs => (h.2.2 hs).symm⟩
  | textList values =>
    cases values with
    | none => trivial
    | some l => exact ⟨h.1.symm, fun hl => (h.2 hl).symm⟩
  | date value =>
    cases value with
    | none => trivial
    | some t => exact Eq.symm h
  | unreadable => trivial

theorem isPresent_eq (h : rules.AgreeOn rules' reading) :
    reading.isPresent rules'.ignoreIfEmpty = reading.isPresent rules.ignoreIfEmpty := by
  cases reading with
  | text value =>
    cases value with
    | none => rfl
    | some s =>
      by_cases hs : s = ""
      · rw [h.2.2 hs]
      · have hpresent : (s != "") = true := bne_iff_ne.2 hs
        simp only [Reading.isPresent, hpresent, Bool.true_or]
  | textList values =>
    cases values with
    | none => rfl
    | some l =>
      by_cases hl : l = []
      · rw [h.2 hl]
      · have hpresent : l.isEmpty = false := List.isEmpty_eq_false_iff.2 hl
        simp only [Reading.isPresent, hpresent, Bool.not_false, Bool.true_or]
  | date value => cases value <;> rfl
  | unreadable => rfl

theorem test?_eq (h : rules.AgreeOn rules' reading) (kind : Kind) :
    rules'.test? reading kind = rules.test? reading kind := by
  cases reading with
  | text value =>
    cases value with
    | none => rfl
    | some s =>
      cases kind
      case text => simp only [test?, h.1, h.2.1]
      all_goals rfl
  | textList values =>
    cases values with
    | none => rfl
    | some l =>
      cases kind
      case text => simp only [test?, h.1]
      case textList => simp only [test?, h.1]
      all_goals rfl
  | date value =>
    cases value with
    | none => rfl
    | some t =>
      have hop : rules'.dateOp = rules.dateOp := h
      cases kind
      case date => simp only [test?, hop]
      case optionalDate => simp only [test?, hop]
      all_goals rfl
  | unreadable => rfl

end Rules.AgreeOn

/-! ## One criterion -/

/-- One fault, or two of pairing that report different kinds of the filter's field. -/
inductive Fault.SameButKind : Fault → Fault → Prop
  | same (fault : Fault) : SameButKind fault fault
  | pairing (field : String) (declared declared' : Kind) (target : String) (kind : Kind) :
      SameButKind (.unsupportedPairing field declared target kind)
        (.unsupportedPairing field declared' target kind)

/-- Whether two criteria of one name agree on what a synthesis reads of them for a value, their
logic aside: both are left out, or they have one target and rules that agree on the value. -/
inductive Criterion.AgreeOn (reading : Reading) (c d : Criterion) : Prop
  | skipped (hname : d.name = c.name) (hskip : c.rules.skipSynthesis = true)
      (hskip' : d.rules.skipSynthesis = true) : AgreeOn reading c d
  | matched (hname : d.name = c.name) (hskip : d.rules.skipSynthesis = c.rules.skipSynthesis)
      (htarget : d.target = c.target) (hrules : c.rules.AgreeOn d.rules reading) :
      AgreeOn reading c d

namespace Criterion.AgreeOn

variable {schema : Schema} {options : Options} {reading : Reading} {c d : Criterion} {fault : Fault}

theorem name_eq (h : AgreeOn reading c d) : d.name = c.name := by
  cases h with
  | skipped hname _ _ => exact hname
  | matched hname _ _ _ => exact hname

theorem symm (h : AgreeOn reading c d) : AgreeOn reading d c := by
  cases h with
  | skipped hname hskip hskip' => exact .skipped hname.symm hskip' hskip
  | matched hname hskip htarget hrules =>
    exact .matched hname.symm hskip.symm htarget.symm hrules.symm

/-- They take part alike. -/
theorem contributes_eq (h : AgreeOn reading c d) (schema : Schema) :
    (⟨d, reading⟩ : Scanned).contributes schema = (⟨c, reading⟩ : Scanned).contributes schema := by
  cases h with
  | skipped _ hskip hskip' =>
    rw [Scanned.contributes_of_skip hskip', Scanned.contributes_of_skip hskip]
  | matched _ hskip htarget hrules =>
    simp only [Scanned.contributes, Scanned.isPresent, hskip, htarget, hrules.isPresent_eq]

/-- Their leaves differ at most in the logic. -/
theorem leaf?_eq (h : AgreeOn reading c d) (schema : Schema) :
    (⟨d, reading⟩ : Scanned).leaf? schema =
      ((⟨c, reading⟩ : Scanned).leaf? schema).map fun part => (d.rules.logic, part.2) := by
  have hcontributes := h.contributes_eq schema
  cases h with
  | skipped _ hskip hskip' =>
    rw [Scanned.leaf?_of_not_contributes (Scanned.contributes_of_skip hskip'),
      Scanned.leaf?_of_not_contributes (Scanned.contributes_of_skip hskip)]
    rfl
  | matched _ _ htarget hrules =>
    simp only [Scanned.leaf?, hcontributes, htarget]
    split
    · cases schema c.target with
      | none => rfl
      | some kind =>
        simp only [Option.bind_eq_bind, Option.bind_some, hrules.test?_eq]
        cases c.rules.test? reading kind <;> rfl
    · rfl

/-- They stop a synthesis alike, up to the kind that is reported. -/
theorem offence (h : AgreeOn reading c d)
    (hc : (⟨c, reading⟩ : Scanned).Offence schema options fault) :
    ∃ fault', (⟨d, reading⟩ : Scanned).Offence schema options fault' ∧
      fault.SameButKind fault' := by
  cases h with
  | skipped _ hskip _ => exact absurd ⟨fault, hc⟩ (Scanned.not_offends_of_skip hskip)
  | matched hname hskip' htarget' hrules =>
    cases hc with
    | untargeted hskip htarget hstrict =>
      refine ⟨_, .untargeted (hskip'.trans hskip) ((congrArg schema htarget').trans htarget)
        hstrict, ?_⟩
      simp only [hname, htarget']
      exact .same _
    | unpaired hskip htarget hpresent hpair =>
      refine ⟨_, .unpaired (hskip'.trans hskip) ((congrArg schema htarget').trans htarget)
        (hrules.isPresent_eq.trans hpresent) hpair, ?_⟩
      simp only [hname, htarget']
      exact .pairing _ _ _ _ _

theorem not_offends (h : AgreeOn reading c d)
    (hc : ¬ (⟨c, reading⟩ : Scanned).Offends schema options) :
    ¬ (⟨d, reading⟩ : Scanned).Offends schema options := by
  rintro ⟨fault, hd⟩
  obtain ⟨fault', hc', -⟩ := h.symm.offence hd
  exact hc ⟨fault', hc'⟩

end Criterion.AgreeOn

/-! ## A whole table -/

/-- The logic of the first leaf does not matter. -/
theorem Formula.ofLeaves?_congr {parts parts' : List (Logic × Atom)}
    (hatoms : parts'.map Prod.snd = parts.map Prod.snd) (hlater : parts'.tail = parts.tail) :
    ofLeaves? parts' = ofLeaves? parts := by
  cases parts with
  | nil => rw [List.map_eq_nil_iff.1 hatoms]
  | cons part parts =>
    obtain ⟨part', rest, rfl, hfirst, -⟩ := List.map_eq_cons_iff.1 hatoms
    obtain rfl : rest = parts := hlater
    rw [ofLeaves?_cons, ofLeaves?_cons, hfirst]

/-- Two outcomes of a synthesis that agree but for the kind that a fault reports. -/
inductive SameButKind : Except Fault (Option Formula) → Except Fault (Option Formula) → Prop
  | fault {fault fault' : Fault} (h : fault.SameButKind fault') :
      SameButKind (.error fault) (.error fault')
  | result (result : Option Formula) : SameButKind (.ok result) (.ok result)

namespace Filter

variable {schema : Schema} {options : Options} {f g : Filter}
  {rows : List (Criterion × Criterion)} {fault : Fault}

/-- Two filters with the same values whose tables differ, row by row, in nothing that a synthesis
for a schema reads.  The logic is read of the rows that take part, the first of them aside. -/
structure Reworded (f g : Filter) (schema : Schema) (rows : List (Criterion × Criterion)) :
    Prop where
  before : f.table = rows.map Prod.fst
  after : g.table = rows.map Prod.snd
  readings : ∀ row ∈ rows, g.read row.1.name = f.read row.1.name
  agree : ∀ row ∈ rows, row.1.AgreeOn (f.read row.1.name) row.2
  logic : ∀ row ∈ (rows.filter fun row => (f.scanned row.1).contributes schema).tail,
    row.2.rules.logic = row.1.rules.logic

namespace Reworded

variable {row : Criterion × Criterion}

theorem scanned_eq (h : f.Reworded g schema rows) (hrow : row ∈ rows) :
    g.scanned row.2 = ⟨row.2, f.read row.1.name⟩ := by
  unfold scanned
  rw [(h.agree row hrow).name_eq, h.readings row hrow]

theorem not_offends (h : f.Reworded g schema rows) (hrow : row ∈ rows)
    (hfree : ¬ (f.scanned row.1).Offends schema options) :
    ¬ (g.scanned row.2).Offends schema options := by
  rw [h.scanned_eq hrow]
  exact (h.agree row hrow).not_offends hfree

theorem synthesize_eq_error (h : f.Reworded g schema rows)
    (hf : f.synthesize schema options = .error fault) :
    ∃ fault', g.synthesize schema options = .error fault' ∧ fault.SameButKind fault' := by
  refine exists_synthesize_eq_error rows h.before h.after (fun row hrow => h.not_offends hrow)
    (fun row hrow fault hc => ?_) hf
  rw [h.scanned_eq hrow]
  exact (h.agree row hrow).offence hc

theorem free_of_offence (h : f.Reworded g schema rows)
    (hf : ∀ c ∈ f.table, ¬ (f.scanned c).Offends schema options) :
    ∀ c ∈ g.table, ¬ (g.scanned c).Offends schema options := by
  rw [h.before, List.forall_mem_map] at hf
  rw [h.after, List.forall_mem_map]
  exact fun row hrow => h.not_offends hrow (hf row hrow)

/-- The leaves of a row differ at most in the logic. -/
theorem leaf?_eq (h : f.Reworded g schema rows) (hrow : row ∈ rows) :
    (g.scanned row.2).leaf? schema =
      ((f.scanned row.1).leaf? schema).map fun part => (row.2.rules.logic, part.2) := by
  rw [h.scanned_eq hrow]
  exact (h.agree row hrow).leaf?_eq schema

theorem leaf?_eq_of_logic (h : f.Reworded g schema rows) (hrow : row ∈ rows)
    (hlogic : row.2.rules.logic = row.1.rules.logic) :
    (g.scanned row.2).leaf? schema = (f.scanned row.1).leaf? schema := by
  rw [h.leaf?_eq hrow]
  cases hleaf : (f.scanned row.1).leaf? schema with
  | none => rfl
  | some part =>
    have hpart : part.1 = row.1.rules.logic := Scanned.logic_of_leaf? hleaf
    rw [Option.map_some, hlogic, ← hpart]

/-- The criteria that take part stand in the same rows of both tables. -/
theorem contributing_eq (h : f.Reworded g schema rows) :
    f.contributing schema =
        (rows.filter fun row => (f.scanned row.1).contributes schema).map
          (fun row => f.scanned row.1) ∧
      g.contributing schema =
        (rows.filter fun row => (f.scanned row.1).contributes schema).map
          fun row => g.scanned row.2 := by
  constructor
  · rw [contributing, scan_eq_map, h.before, List.map_map, List.filter_map]
    rfl
  · rw [contributing, scan_eq_map, h.after, List.map_map, List.filter_map]
    refine congrArg (List.map _) (List.filter_congr fun row hrow => ?_)
    simp only [Function.comp_apply, h.scanned_eq hrow]
    exact (h.agree row hrow).contributes_eq schema

/-- Without an offence both tables join to the same formula: the first leaf tests the same, and the
later leaves are the same. -/
theorem ofLeaves?_eq (h : f.Reworded g schema rows)
    (hfree : ∀ c ∈ f.table, ¬ (f.scanned c).Offends schema options) :
    Formula.ofLeaves? (g.scan.filterMap (Scanned.leaf? schema)) =
      Formula.ofLeaves? (f.scan.filterMap (Scanned.leaf? schema)) := by
  have hf := map_leaf?_contributing hfree
  have hg := map_leaf?_contributing (h.free_of_offence hfree)
  rw [h.contributing_eq.1, List.map_map] at hf
  rw [h.contributing_eq.2, List.map_map] at hg
  have hmem : ∀ row ∈ rows.filter fun row => (f.scanned row.1).contributes schema, row ∈ rows :=
    fun row hrow => (List.mem_filter.1 hrow).1
  have hlater : ∀ row ∈ (rows.filter fun row => (f.scanned row.1).contributes schema).tail,
      (g.scanned row.2).leaf? schema = (f.scanned row.1).leaf? schema := fun row hrow =>
    h.leaf?_eq_of_logic (hmem row (List.mem_of_mem_tail hrow)) (h.logic row hrow)
  refine Formula.ofLeaves?_congr (map_eq_of_rows hg hf fun row hrow => ?_) ?_
  · simp only [Function.comp_apply, h.leaf?_eq (hmem row hrow), Option.map_map]
    rfl
  · apply (List.map_inj_right fun _ _ => Option.some.inj).1
    rw [List.map_tail, List.map_tail, ← hf, ← hg, ← List.map_tail, ← List.map_tail]
    exact List.map_congr_left hlater

end Reworded

/-- **A rule reaches only what it is a rule for.**  A table may be reworded in any number of rules
at once that are not read, and in the kinds that its criteria declare: the synthesis comes to the
same formula, to none, or to the same fault but for the kind that it reports. -/
theorem synthesize_reworded (h : f.Reworded g schema rows) (options : Options) :
    SameButKind (f.synthesize schema options) (g.synthesize schema options) := by
  cases hf : f.synthesize schema options with
  | error fault =>
    obtain ⟨fault', hg, hsame⟩ := h.synthesize_eq_error hf
    rw [hg]
    exact .fault hsame
  | ok result =>
    obtain ⟨hfree, rfl⟩ := synthesize_eq_ok_iff.1 hf
    have hg := synthesize_eq_ok_iff.2 ⟨h.free_of_offence hfree, rfl⟩
    rw [hg, h.ofLeaves?_eq hfree]
    exact .result _

/-- A row that is left out, the date that stands first, a null text and a list, each with all the
rules changed that are not read of it. -/
theorem synthesize_reworded_four_rows :
    let schema := Schema.ofColumns
      [("title", .text false), ("labels", .textList false), ("due", .date .timestamp true)]
    let rows : List (Criterion × Criterion) :=
      [(⟨"note", .text, { skipSynthesis := true }⟩,
          ⟨"note", .textList, { target := some "ghost", logic := .or, skipSynthesis := true }⟩),
        (⟨"due", .optionalDate, { dateOp := .lessThan }⟩,
          ⟨"due", .text,
            { case := .insensitive, textMatch := .contains, dateOp := .lessThan, logic := .or }⟩),
        (⟨"title", .text, {}⟩, ⟨"title", .text, { logic := .or, ignoreIfEmpty := false }⟩),
        (⟨"labels", .textList, { logic := .or }⟩,
          ⟨"labels", .textList,
            { textMatch := .contains, dateOp := .lessThan, logic := .or, ignoreIfEmpty := false }⟩)]
    let values : List Reading :=
      [.text (some "x"), .date (some (Timestamp.ofSeconds 5)), .text none,
        .textList (some ["urgent"])]
    let f := ofRows ((rows.map Prod.fst).zip values) {}
    let g := ofRows ((rows.map Prod.snd).zip values) {}
    f.Reworded g schema rows ∧ ∃ p, f.synthesize schema {} = .ok (some p) ∧
      g.synthesize schema {} = .ok (some p) := by
  intro schema rows values f g
  have h : f.Reworded g schema rows := by
    refine ⟨rfl, rfl, by decide, ?_, by decide⟩
    refine List.forall_mem_cons.2 ⟨.skipped rfl rfl rfl, ?_⟩
    refine List.forall_mem_cons.2 ⟨.matched rfl rfl rfl rfl, ?_⟩
    refine List.forall_mem_cons.2 ⟨.matched rfl rfl rfl trivial, ?_⟩
    refine List.forall_mem_singleton.2 (.matched rfl rfl rfl ⟨rfl, ?_⟩)
    exact fun hempty => by cases hempty
  have hf : ∃ p, f.synthesize schema {} = .ok (some p) := ⟨_, rfl⟩
  obtain ⟨p, hp⟩ := hf
  have hsame := synthesize_reworded h {}
  rw [hp] at hsame
  cases hg : g.synthesize schema {} with
  | error fault => rw [hg] at hsame; cases hsame
  | ok result =>
    rw [hg] at hsame
    cases hsame
    exact ⟨h, p, hp, rfl⟩

end Filter

end Criteria
