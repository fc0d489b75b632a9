import Criteria.Proofs.Synthesis.Skipping

/-!
# One more value

Giving a criterion a value that takes part moves the formula in the direction of the criterion's
logic: by conjunction fewer records are accepted, by disjunction more.  The leaf is joined in the
middle of the others, but whatever is joined after it keeps the direction
(`Formula.joinLeaves_accepts_of_imp`).  There is no direction if the criterion becomes the first
that takes part: its logic joins it to nothing, and the logic of the one that was first joins the
two.

* `Filter.Fills`: two filters, one with one value more.
* `Filter.synthesize_fill`: what the value does to the formula.
-/

namespace Criteria

/-! ## Leaves -/

namespace Formula

/-- A formula that accepts more still does so with the same leaves joined to it. -/
theorem joinLeaves_accepts_of_imp {p q : Formula} {r : Record}
    (h : p.accepts r = true → q.accepts r = true) (parts : List (Logic × Atom)) :
    (p.joinLeaves parts).accepts r = true → (q.joinLeaves parts).accepts r = true := by
  induction parts generalizing p q with
  | nil => exact h
  | cons part parts ih =>
    apply ih
    rw [join_accepts, join_accepts]
    rintro (⟨hlogic, hp, hleaf⟩ | ⟨hlogic, hp | hleaf⟩)
    · exact .inl ⟨hlogic, h hp, hleaf⟩
    · exact .inr ⟨hlogic, .inl (h hp)⟩
    · exact .inr ⟨hlogic, .inr hleaf⟩

/-- A leaf joined in the middle takes records away by conjunction and adds some by disjunction. -/
theorem joinLeaves_insert (p : Formula) (part : Logic × Atom) (parts : List (Logic × Atom))
    (r : Record) :
    (part.1 = .and → (p.joinLeaves (part :: parts)).accepts r = true →
        (p.joinLeaves parts).accepts r = true) ∧
      (part.1 = .or → (p.joinLeaves parts).accepts r = true →
        (p.joinLeaves (part :: parts)).accepts r = true) := by
  rw [joinLeaves_cons]
  constructor
  · intro hand
    apply joinLeaves_accepts_of_imp
    rw [join_accepts, hand]
    rintro (⟨-, hleft, -⟩ | ⟨hor, -⟩)
    · exact hleft
    · cases hor
  · intro hor
    apply joinLeaves_accepts_of_imp
    intro hleft
    rw [join_accepts]
    exact .inr ⟨hor, .inl hleft⟩

end Formula

namespace Filter

variable {schema : Schema} {options : Options} {f g : Filter} {before after : List Criterion}
  {c : Criterion}

/-- The value of one criterion takes part in the second filter and not in the first; all others
are the same. -/
structure Fills (f g : Filter) (before : List Criterion) (c : Criterion)
    (after : List Criterion) : Prop where
  table : f.table = before ++ c :: after
  sameTable : g.table = f.table
  others : ∀ d ∈ before ++ after, g.read d.name = f.read d.name
  absent : (f.scanned c).isPresent = false
  present : (g.scanned c).isPresent = true

namespace Fills

theorem map_scanned (h : f.Fills g before c after) (rows : List Criterion)
    (hrows : ∀ d ∈ rows, d ∈ before ++ after) : rows.map g.scanned = rows.map f.scanned := by
  refine List.map_congr_left fun d hd => ?_
  unfold scanned
  rw [h.others d (hrows d hd)]

/-- Without the value the leaves are those of the criteria around it. -/
theorem leaves_absent (h : f.Fills g before c after) :
    f.scan.filterMap (Scanned.leaf? schema) =
      (before.map f.scanned).filterMap (Scanned.leaf? schema) ++
        (after.map f.scanned).filterMap (Scanned.leaf? schema) := by
  have hnone : (f.scanned c).leaf? schema = none := by
    apply Scanned.leaf?_of_not_contributes
    rw [Scanned.contributes, h.absent, Bool.and_false]
  rw [scan_eq_map, h.table, List.map_append, List.map_cons, List.filterMap_append,
    List.filterMap_cons_none hnone]

/-- With the value its leaf stands between them. -/
theorem leaves_present (h : f.Fills g before c after) {part : Logic × Atom}
    (hpart : (g.scanned c).leaf? schema = some part) :
    g.scan.filterMap (Scanned.leaf? schema) =
      (before.map f.scanned).filterMap (Scanned.leaf? schema) ++
        part :: (after.map f.scanned).filterMap (Scanned.leaf? schema) := by
  have hbefore := h.map_scanned before fun d hd => List.mem_append_left after hd
  have hafter := h.map_scanned after fun d hd => List.mem_append_right before hd
  rw [scan_eq_map, h.sameTable, h.table, List.map_append, List.map_cons, List.filterMap_append,
    List.filterMap_cons_some hpart, hbefore, hafter]

theorem mem_table (h : f.Fills g before c after) : c ∈ g.table := by
  rw [h.sameTable, h.table]
  exact List.mem_append_right before List.mem_cons_self

theorem contributes (h : f.Fills g before c after) (hskip : c.rules.skipSynthesis = false)
    (htarget : (schema c.target).isSome = true) :
    (g.scanned c).contributes schema = true := by
  simp only [Scanned.contributes, h.present, Bool.and_true]
  simp only [scanned, hskip, htarget, Bool.not_false, Bool.and_true]

/-- The criteria before come to a formula if one of them takes part. -/
theorem exists_formula_before (h : f.Fills g before c after)
    (hfree : ∀ d ∈ f.table, ¬ (f.scanned d).Offends schema options)
    (hearlier : ∃ d ∈ before, (f.scanned d).contributes schema = true) :
    ∃ p, Formula.ofLeaves? ((before.map f.scanned).filterMap (Scanned.leaf? schema)) = some p := by
  obtain ⟨d, hd, hcontributes⟩ := hearlier
  have hbefore : d ∈ f.table := by
    rw [h.table]
    exact List.mem_append_left _ hd
  obtain ⟨part, hpart⟩ :=
    Option.isSome_iff_exists.1 (Scanned.isSome_leaf? (hfree d hbefore) hcontributes)
  rw [← Option.ne_none_iff_exists', ne_eq, Formula.ofLeaves?_eq_none_iff]
  exact List.ne_nil_of_mem (List.mem_filterMap.2 ⟨f.scanned d, List.mem_map_of_mem hd, hpart⟩)

end Fills

/-- **One more value moves the formula in the direction of its logic.**  Let some criterion take
part before one whose value is absent in one filter and takes part in another, all else being
equal.  If both filters are synthesized, then to formulas; joined by conjunction the new leaf takes
records away and adds none, joined by disjunction it adds records and takes none away. -/
theorem synthesize_fill {result result' : Option Formula} (h : f.Fills g before c after)
    (hskip : c.rules.skipSynthesis = false) (htarget : (schema c.target).isSome = true)
    (hearlier : ∃ d ∈ before, (f.scanned d).contributes schema = true)
    (hf : f.synthesize schema options = .ok result)
    (hg : g.synthesize schema options = .ok result') :
    ∃ p q, result = some p ∧ result' = some q ∧ ∀ r,
      (c.rules.logic = .and → q.accepts r = true → p.accepts r = true) ∧
        (c.rules.logic = .or → p.accepts r = true → q.accepts r = true) := by
  obtain ⟨hfreef, hresult⟩ := synthesize_eq_ok_iff.1 hf
  obtain ⟨hfreeg, hresult'⟩ := synthesize_eq_ok_iff.1 hg
  obtain ⟨part, hpart⟩ := Option.isSome_iff_exists.1
    (Scanned.isSome_leaf? (hfreeg c h.mem_table) (h.contributes hskip htarget))
  have hlogic : part.1 = c.rules.logic := Scanned.logic_of_leaf? hpart
  obtain ⟨p, hp⟩ := h.exists_formula_before hfreef hearlier
  rw [h.leaves_absent, Formula.ofLeaves?_append, hp, Formula.foldl_extend_some] at hresult
  rw [h.leaves_present hpart, Formula.ofLeaves?_append, hp, Formula.foldl_extend_some] at hresult'
  refine ⟨_, _, hresult, hresult', fun r => ?_⟩
  rw [← hlogic]
  exact Formula.joinLeaves_insert p part _ r

/-- A disjunction filled in between two conjunctions. -/
theorem synthesize_fill_disjunction :
    let schema := Schema.ofColumns
      [("title", .text false), ("labels", .textList false), ("due", .date .timestamp true)]
    let title : Criterion := ⟨"title", .text, {}⟩
    let labels : Criterion := ⟨"labels", .textList, { logic := .or }⟩
    let due : Criterion := ⟨"due", .optionalDate, {}⟩
    let date : Reading := .date (some (Timestamp.ofSeconds 5))
    let f := ofRows [(title, .text (some "bug")), (labels, .textList none), (due, date)] {}
    let g := ofRows
      [(title, .text (some "bug")), (labels, .textList (some ["urgent"])), (due, date)] {}
    ∃ p q, f.synthesize schema {} = .ok (some p) ∧ g.synthesize schema {} = .ok (some q) ∧
      ∀ r, p.accepts r = true → q.accepts r = true := by
  intro schema title labels due date f g
  have hfills : f.Fills g [title] labels [due] := ⟨rfl, rfl, by decide, rfl, rfl⟩
  have hf : ∃ result, f.synthesize schema {} = .ok result := ⟨_, rfl⟩
  have hg : ∃ result, g.synthesize schema {} = .ok result := ⟨_, rfl⟩
  obtain ⟨result, hf⟩ := hf
  obtain ⟨result', hg⟩ := hg
  obtain ⟨p, q, rfl, rfl, hpq⟩ :=
    synthesize_fill hfills rfl rfl ⟨title, List.mem_cons_self, rfl⟩ hf hg
  exact ⟨p, q, hf, hg, fun r => (hpq r).2 rfl⟩

-- A conjunction filled in before all that take part adds records where the next is a disjunction.
example :
    let schema := Schema.ofColumns [("title", .text false), ("labels", .textList false)]
    let title : Criterion := ⟨"title", .text, {}⟩
    let labels : Criterion := ⟨"labels", .textList, { logic := .or }⟩
    let f := ofRows [(title, .text none), (labels, .textList (some ["urgent"]))] {}
    let g := ofRows [(title, .text (some "bug")), (labels, .textList (some ["urgent"]))] {}
    let r := Record.ofCells [("title", .text "bug"), ("labels", .textList [])]
    (f.synthesize schema {}).toOption.join.map (fun p => p.accepts r) = some false ∧
      (g.synthesize schema {}).toOption.join.map (fun p => p.accepts r) = some true := by
  decide

end Filter

end Criteria
