import Criteria.Fingerprint
import Criteria.Proofs.Synthesis.Meaning

/-!
# Rearranged filters

Two filters are rearrangements of each other if they have one table and one page and hold the
same values, lists in any order.  Whatever is computed from a filter then agrees: the fingerprint,
the probes for present values, and the synthesis for every schema, up to the order in which a
formula lists its texts.  A formula found under a fingerprint therefore serves every filter that
the fingerprint was meant to identify with the first.
-/

namespace Criteria

/-! ## Values -/

/-- Two values that differ at most in the order of a list. -/
inductive Reading.Rearranged : Reading → Reading → Prop
  | same (reading : Reading) : Rearranged reading reading
  | list {xs ys : List String} (h : xs.Perm ys) :
      Rearranged (.textList (some xs)) (.textList (some ys))

namespace Reading.Rearranged

variable {x y : Reading}

theorem symm (h : x.Rearranged y) : y.Rearranged x := by
  cases h with
  | same => exact .same x
  | list h => exact .list h.symm

theorem isPresent_eq (h : x.Rearranged y) (ignoreIfEmpty : Bool) :
    x.isPresent ignoreIfEmpty = y.isPresent ignoreIfEmpty := by
  cases h with
  | same => rfl
  | list h => simp only [isPresent, h.isEmpty_eq]

theorem pairsWith_eq (h : x.Rearranged y) (kind : Kind) :
    x.pairsWith kind = y.pairsWith kind := by
  cases h with
  | same => rfl
  | list => cases kind <;> rfl

/-- The condition of a list asks only which texts are in it. -/
theorem holds_iff (h : x.Rearranged y) (rules : Rules) (kind : Kind) (cell : Cell) :
    rules.Holds cell x kind ↔ rules.Holds cell y kind := by
  cases h with
  | same => rfl
  | list h => cases kind <;> simp only [Rules.Holds, h.mem_iff]

end Reading.Rearranged

/-! ## Bytes -/

namespace Fingerprint

/-- The sum of the hashes of texts does not depend on their order. -/
theorem elementSum_perm {xs ys : List String} (h : xs.Perm ys) :
    elementSum xs = elementSum ys := by
  unfold elementSum
  refine h.foldl_eq' (fun x _ y _ sum => ?_) 0
  rw [UInt64.add_assoc, UInt64.add_comm (SipHash.hash _), ← UInt64.add_assoc]

theorem valueBytes_rearranged {x y : Reading} (h : x.Rearranged y) :
    valueBytes x = valueBytes y := by
  cases h with
  | same => rfl
  | list h => simp only [valueBytes, h.length_eq, elementSum_perm h]

end Fingerprint

/-! ## Criteria -/

/-- One criterion with values that differ at most in the order of a list. -/
structure Scanned.Rearranged (s t : Scanned) : Prop where
  criterion : s.criterion = t.criterion
  reading : s.reading.Rearranged t.reading

namespace Scanned.Rearranged

variable {s t : Scanned}

theorem symm (h : s.Rearranged t) : t.Rearranged s :=
  ⟨h.criterion.symm, h.reading.symm⟩

theorem isPresent_eq (h : s.Rearranged t) : s.isPresent = t.isPresent := by
  unfold isPresent
  rw [h.criterion, h.reading.isPresent_eq]

theorem contributes_eq (h : s.Rearranged t) (schema : Schema) :
    s.contributes schema = t.contributes schema := by
  unfold contributes
  rw [h.criterion, h.isPresent_eq]

theorem holds_iff (h : s.Rearranged t) (schema : Schema) (r : Record) :
    s.Holds schema r ↔ t.Holds schema r := by
  unfold Holds
  simp only [h.criterion, h.reading.holds_iff]

theorem offence {schema : Schema} {options : Options} {fault : Fault} (h : s.Rearranged t)
    (hs : s.Offence schema options fault) : t.Offence schema options fault := by
  have hpresent := h.isPresent_eq
  obtain ⟨c, x⟩ := s
  obtain ⟨d, y⟩ := t
  obtain ⟨rfl, hreading⟩ := h
  cases hs with
  | untargeted hskip htarget hstrict => exact .untargeted hskip htarget hstrict
  | unpaired hskip htarget hp hpair =>
    exact .unpaired hskip htarget (hpresent ▸ hp) (hreading.pairsWith_eq _ ▸ hpair)

theorem offends_iff (h : s.Rearranged t) (schema : Schema) (options : Options) :
    s.Offends schema options ↔ t.Offends schema options :=
  ⟨fun ⟨fault, hs⟩ => ⟨fault, h.offence hs⟩, fun ⟨fault, ht⟩ => ⟨fault, h.symm.offence ht⟩⟩

end Scanned.Rearranged

/-! ## Filters -/

/-- Two filters with one table and one page whose values agree, lists in any order. -/
structure Filter.Rearranged (f g : Filter) : Prop where
  table : f.table = g.table
  paging : f.paging = g.paging
  readings : ∀ c ∈ f.table, (f.read c.name).Rearranged (g.read c.name)

/-- Two outcomes of a synthesis that no record tells apart: one fault, no formula, or formulas
that accept the same records. -/
inductive SameOutcome : Except Fault (Option Formula) → Except Fault (Option Formula) → Prop
  | fault (fault : Fault) : SameOutcome (.error fault) (.error fault)
  | nothing : SameOutcome (.ok none) (.ok none)
  | formula {p q : Formula} (h : ∀ r, p.accepts r = q.accepts r) :
      SameOutcome (.ok (some p)) (.ok (some q))

namespace Filter.Rearranged

variable {f g : Filter}

theorem scanned (h : f.Rearranged g) {c : Criterion} (hc : c ∈ f.table) :
    (f.scanned c).Rearranged (g.scanned c) :=
  ⟨rfl, h.readings c hc⟩

/-- What is read off criteria alike in rearranged filters is read off the whole table alike. -/
theorem map_scan_eq {α : Type} (h : f.Rearranged g) {read : Scanned → α}
    (hread : ∀ {s t : Scanned}, s.Rearranged t → read s = read t) :
    f.scan.map read = g.scan.map read := by
  rw [scan_eq_map, scan_eq_map, ← h.table, List.map_map, List.map_map]
  exact List.map_congr_left fun c hc => hread (h.scanned hc)

theorem fingerprint_eq (h : f.Rearranged g) : f.fingerprint = g.fingerprint := by
  have hbytes : Fingerprint.contributions f = Fingerprint.contributions g := by
    unfold Fingerprint.contributions
    rw [h.paging, h.map_scan_eq fun {s t} hst => ?_]
    unfold Fingerprint.fieldBytes
    rw [hst.criterion, Fingerprint.valueBytes_rearranged hst.reading]
  unfold Filter.fingerprint
  rw [hbytes]

theorem map_isPresent_eq (h : f.Rearranged g) :
    f.scan.map Scanned.isPresent = g.scan.map Scanned.isPresent :=
  h.map_scan_eq Scanned.Rearranged.isPresent_eq

theorem hasAny_eq (h : f.Rearranged g) : f.hasAny = g.hasAny := by
  have hmap : ∀ rows : List Scanned,
      rows.any Scanned.isPresent = (rows.map Scanned.isPresent).any id := by
    intro rows
    rw [List.any_map]
    rfl
  unfold hasAny
  rw [hmap, hmap, h.map_isPresent_eq]

theorem hasAll_eq (h : f.Rearranged g) : f.hasAll = g.hasAll := by
  have hmap : ∀ rows : List Scanned,
      rows.all Scanned.isPresent = (rows.map Scanned.isPresent).all id := by
    intro rows
    rw [List.all_map]
    rfl
  unfold hasAll
  rw [hmap, hmap, h.map_isPresent_eq]

theorem symm (h : f.Rearranged g) : g.Rearranged f where
  table := h.table.symm
  paging := h.paging.symm
  readings := fun c hc => (h.readings c (h.table ▸ hc)).symm

/-- A criterion has an offence in one filter exactly if it has one in the other. -/
theorem free_of_offence (h : f.Rearranged g) {schema : Schema} {options : Options}
    (hf : ∀ c ∈ f.table, ¬ (f.scanned c).Offends schema options) :
    ∀ c ∈ g.table, ¬ (g.scanned c).Offends schema options := by
  intro c hc
  rw [← h.table] at hc
  rw [← (h.scanned hc).offends_iff schema options]
  exact hf c hc

theorem synthesize_eq_error {schema : Schema} {options : Options} {fault : Fault}
    (h : f.Rearranged g) (hf : f.synthesize schema options = .error fault) :
    g.synthesize schema options = .error fault := by
  have hrows : f.table = (f.table.map fun c => (c, c)).map Prod.fst ∧
      g.table = (f.table.map fun c => (c, c)).map Prod.snd := by
    simp only [List.map_map, Function.comp_def, List.map_id', h.table, and_self]
  obtain ⟨fault', hg, rfl⟩ := exists_synthesize_eq_error (R := Eq) _ hrows.1 hrows.2
    (List.forall_mem_map.2 fun c hc => (not_congr ((h.scanned hc).offends_iff schema options)).1)
    (List.forall_mem_map.2 fun c hc fault hs => ⟨fault, (h.scanned hc).offence hs, rfl⟩) hf
  exact hg

/-- The criteria that take part are the same ones. -/
theorem filter_contributes_eq (h : f.Rearranged g) (schema : Schema) :
    (f.table.filter fun c => (f.scanned c).contributes schema) =
      g.table.filter fun c => (g.scanned c).contributes schema := by
  rw [← h.table]
  exact List.filter_congr fun c hc => (h.scanned hc).contributes_eq schema

theorem contributing_eq_nil (h : f.Rearranged g) {schema : Schema}
    (hf : f.contributing schema = []) : g.contributing schema = [] := by
  rw [contributing_eq_map, List.map_eq_nil_iff] at hf ⊢
  rw [← h.filter_contributes_eq schema, hf]

theorem admits (h : f.Rearranged g) {schema : Schema} {r : Record}
    (hf : Admits (fun s => s.criterion.rules.logic) (fun s => s.Holds schema r)
      (f.contributing schema)) :
    Admits (fun s => s.criterion.rules.logic) (fun s => s.Holds schema r)
      (g.contributing schema) := by
  have hmap : (f.contributing schema).map Scanned.criterion =
      (g.contributing schema).map Scanned.criterion := by
    rw [contributing_eq_map, contributing_eq_map, List.map_map, List.map_map,
      h.filter_contributes_eq schema]
    rfl
  refine Admits.of_map_eq (fun s hs t ht hst => ?_) hmap hf
  obtain ⟨c, hc, rfl⟩ := List.mem_map.1 (List.mem_filter.1 hs).1
  obtain ⟨d, -, rfl⟩ := List.mem_map.1 (List.mem_filter.1 ht).1
  obtain rfl : c = d := hst
  exact ⟨rfl, (h.scanned hc).holds_iff schema r⟩

theorem accepts_eq (h : f.Rearranged g) {schema : Schema} {options : Options} {p q : Formula}
    (hp : f.synthesize schema options = .ok (some p))
    (hq : g.synthesize schema options = .ok (some q)) (r : Record) : p.accepts r = q.accepts r := by
  rw [Bool.eq_iff_iff, synthesize_accepts_iff hp, synthesize_accepts_iff hq]
  exact ⟨h.admits, h.symm.admits⟩

/-- Rearranged filters are synthesized alike. -/
theorem sameOutcome (h : f.Rearranged g) (schema : Schema) (options : Options) :
    SameOutcome (f.synthesize schema options) (g.synthesize schema options) := by
  cases hf : f.synthesize schema options with
  | error fault =>
    rw [h.synthesize_eq_error hf]
    exact .fault fault
  | ok result =>
    have hg : ∃ other, g.synthesize schema options = .ok other :=
      ⟨_, synthesize_eq_ok_iff.2 ⟨h.free_of_offence (synthesize_eq_ok_iff.1 hf).1, rfl⟩⟩
    obtain ⟨other, hg⟩ := hg
    rw [hg]
    have hnone : result = none ↔ other = none := by
      rw [synthesize_eq_ok_none_iff hf, synthesize_eq_ok_none_iff hg]
      exact ⟨h.contributing_eq_nil, h.symm.contributing_eq_nil⟩
    cases result with
    | none =>
      rw [hnone.1 rfl]
      exact .nothing
    | some p =>
      cases other with
      | none => cases hnone.2 rfl
      | some q => exact .formula (h.accepts_eq hf hg)

end Filter.Rearranged

/-- **A fingerprint is sound as a key.**  Rearranged filters have one fingerprint, agree on which
values are present, and are synthesized alike for every schema. -/
theorem Filter.fingerprint_sound {f g : Filter} (h : f.Rearranged g) :
    f.fingerprint = g.fingerprint ∧ f.hasAny = g.hasAny ∧ f.hasAll = g.hasAll ∧
      ∀ schema options, SameOutcome (f.synthesize schema options) (g.synthesize schema options) :=
  ⟨h.fingerprint_eq, h.hasAny_eq, h.hasAll_eq, h.sameOutcome⟩

/-- Two lists rearranged, one of them with a text twice. -/
theorem Filter.fingerprint_sound_two_lists :
    let table : Table :=
      [⟨"labels", .textList, { case := .insensitive }⟩, ⟨"title", .text, { logic := .or }⟩,
        ⟨"owners", .textList, { target := some "owner", logic := .or }⟩]
    let f : Filter := ⟨table, fun name =>
      if name = "labels" then .textList (some ["Red", "blue", "Red"])
      else if name = "owners" then .textList (some ["ada", "bob"]) else .text none, {}⟩
    let g : Filter := ⟨table, fun name =>
      if name = "labels" then .textList (some ["Red", "Red", "blue"])
      else if name = "owners" then .textList (some ["bob", "ada"]) else .text none, {}⟩
    f.fingerprint = g.fingerprint ∧ f.hasAny = g.hasAny ∧ f.hasAll = g.hasAll ∧
      ∀ schema options,
        SameOutcome (f.synthesize schema options) (g.synthesize schema options) := by
  intro table f g
  refine Filter.fingerprint_sound ⟨rfl, rfl, fun c hc => ?_⟩
  simp only [f, table, List.mem_cons, List.not_mem_nil, or_false] at hc
  rcases hc with rfl | rfl | rfl
  · exact .list (by decide)
  · exact .same _
  · exact .list (by decide)

end Criteria
