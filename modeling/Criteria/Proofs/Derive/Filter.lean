import Criteria.Proofs.Derive.Entries
import Criteria.Proofs.Derive.Readback
import Criteria.Proofs.Source.Parser
import Criteria.Proofs.Synthesis.Compatibility

/-!
# Generated filters are well formed

What is generated for a filter follows from its fields one by one: a field whose attribute does not
mark it as the page's is a criterion, and has one row and one arm.  The fields that were read so far
leave nothing behind but the field of the page, and this is the invariant of the walk over them
(`FilterParts.ofFields_eq_ok_iff`).

* `GeneratedFilter.derive_wellFormed`: when nothing is generated, and what the generated code says;
  the table passes the check of tables, and every row reads its own field.
-/

namespace Criteria.Derive

open Criteria.Source Criteria.Source.Entry

/-! ## The attribute of a field -/

namespace FilterDirective

/-- The entries of the attribute that makes a field part of a filter, the first one with the name;
by itself it has none. -/
def written? (attributes : List Attribute) : Option (List Entry) :=
  match named? "filter" attributes with
  | some ⟨.path _, _⟩ => some []
  | some ⟨.list _ content, _⟩ => (entries content).toOption
  | _ => none

/-- Entries that may each stand there, and no rules beside the mark of the page's field. -/
def Accepted (es : List Entry) : Prop :=
  (∀ e ∈ es, Admits e) ∧ ¬ ((given es).paging = true ∧ (given es).hasRules = true)

/-- Whether there is an attribute with the name, and it holds no entries that are accepted. -/
def Malformed (attributes : List Attribute) : Prop :=
  (named? "filter" attributes).isSome = true ∧
    ∀ es, written? attributes = some es → ¬ Accepted es

variable {attributes : List Attribute} {a : FilterDirective}

theorem ofArguments_eq_ok_iff {content : Tokens} :
    ofArguments content = .ok a ↔ ∃ es, entries content = .ok es ∧ ofEntries es = .ok a := by
  cases h : entries content <;> simp [ofArguments, h]

theorem ofAttributes_eq_ok_none_iff :
    ofAttributes attributes = .ok none ↔ named? "filter" attributes = none := by
  unfold ofAttributes
  split
  · next h => simp [h]
  · next h => simp [h]
  · next h =>
    simp only [h, reduceCtorEq, iff_false]
    intro hok
    obtain ⟨content, -, hrest⟩ := bind_eq_ok_iff.1 hok
    obtain ⟨b, -, hb⟩ := bind_eq_ok_iff.1 hrest
    cases hb

theorem accepted_nil : Accepted [] := by
  simp [Accepted, given]

theorem ofAttributes_eq_ok_some_iff :
    ofAttributes attributes = .ok (some a) ↔
      ∃ es, written? attributes = some es ∧ Accepted es ∧ a = given es := by
  unfold ofAttributes written?
  cases h : named? "filter" attributes with
  | none => simp
  | some found =>
    obtain ⟨entry, tokens⟩ := found
    cases entry with
    | path p =>
      simp only [Except.ok.injEq, Option.some.injEq, exists_eq_left', accepted_nil, true_and]
      exact eq_comm
    | list p content =>
      have hread : (ofArguments content >>= fun read => pure (some read)) = .ok (some a) ↔
          ofArguments content = .ok a := by
        cases ofArguments content <;> simp [bind, Except.bind, pure, Except.pure]
      refine hread.trans (ofArguments_eq_ok_iff.trans (exists_congr fun es => ?_))
      rw [toOption_eq_some_iff, ofEntries_eq_ok_iff, Accepted, and_assoc]
    | nameValue p v => simp [arguments, bind, Except.bind]

theorem isSome_named?_of_written? {es : List Entry} (h : written? attributes = some es) :
    (named? "filter" attributes).isSome = true := by
  unfold written? at h
  cases hnamed : named? "filter" attributes with
  | none =>
    rw [hnamed] at h
    cases h
  | some found => rfl

theorem malformed_iff {es : List Entry} (h : written? attributes = some es) :
    Malformed attributes ↔ ¬ Accepted es := by
  simp [Malformed, isSome_named?_of_written? h, h]

theorem exists_ofAttributes_error_iff :
    (∃ e, ofAttributes attributes = .error e) ↔ Malformed attributes := by
  rw [exists_error_iff, Option.exists, not_or, ofAttributes_eq_ok_none_iff]
  simp only [ofAttributes_eq_ok_some_iff, Malformed, ← Option.ne_none_iff_isSome, ne_eq]
  refine and_congr_right fun _ => ⟨?_, ?_⟩
  · intro h es hes haccepted
    exact h ⟨given es, es, hes, haccepted, rfl⟩
  · rintro h ⟨a, es, hes, haccepted, -⟩
    exact h es hes haccepted

end FilterDirective

/-! ## Fields one by one -/

section

open FilterDirective

/-- Whether a field has the attribute without the mark of the page's field. -/
def isCriterion (f : Field) : Bool :=
  (written? f.attributes).any fun es => !es.any (isFlag "paging")

def holdsPage (f : Field) : Bool :=
  (written? f.attributes).any fun es => es.any (isFlag "paging")

def criteriaOf (fields : List Field) : List Field :=
  fields.filter isCriterion

def pagesOf (fields : List Field) : List Field :=
  fields.filter holdsPage

/-- The row of a criterion. -/
def rowOf (f : Field) : FilterRow :=
  ⟨unraw f.name, f.type, (given ((written? f.attributes).getD [])).setters⟩

/-- What fields come to after a field of the page or none. -/
def partsOf (paging : Option String) (fields : List Field) : FilterParts where
  rows := (criteriaOf fields).map rowOf
  arms := (criteriaOf fields).map fun f => ⟨unraw f.name, f.name⟩
  paging := (paging.toList ++ (pagesOf fields).map Field.name).head?

variable {f : Field} {es : List Entry}

theorem partsOf_cons_unmarked (paging : Option String) (rest : List Field)
    (h : written? f.attributes = none) :
    pagesOf (f :: rest) = pagesOf rest ∧ partsOf paging (f :: rest) = partsOf paging rest := by
  simp [partsOf, criteriaOf, pagesOf, isCriterion, holdsPage, h]

theorem partsOf_cons_page (rest : List Field) (h : written? f.attributes = some es)
    (hpaging : es.any (isFlag "paging") = true) :
    pagesOf (f :: rest) = f :: pagesOf rest ∧
      partsOf none (f :: rest) = partsOf (some f.name) rest := by
  simp [partsOf, criteriaOf, pagesOf, isCriterion, holdsPage, h, hpaging]

theorem partsOf_cons_criterion (paging : Option String) (rest : List Field)
    (h : written? f.attributes = some es) (hpaging : es.any (isFlag "paging") = false) :
    pagesOf (f :: rest) = pagesOf rest ∧
      partsOf paging (f :: rest) = (partsOf paging rest).addRow f (given es) := by
  simp [partsOf, FilterParts.addRow, criteriaOf, pagesOf, isCriterion, holdsPage, rowOf, h, hpaging]

theorem FilterParts.ofFields_eq_ok_iff {paging : Option String} {fields : List Field}
    {parts : FilterParts} :
    ofFields paging fields = .ok parts ↔
      (∀ f ∈ fields, ¬ Malformed f.attributes) ∧
        paging.toList.length + (pagesOf fields).length ≤ 1 ∧ parts = partsOf paging fields := by
  induction fields generalizing paging parts with
  | nil => cases paging <;> simp [ofFields, partsOf, criteriaOf, pagesOf, eq_comm]
  | cons f rest ih =>
    rw [ofFields]
    cases hf : ofAttributes f.attributes with
    | error e =>
      have hmalformed := exists_ofAttributes_error_iff.1 ⟨e, hf⟩
      simp [hmalformed]
    | ok found =>
      have hwell : ¬ Malformed f.attributes := by
        rw [← exists_ofAttributes_error_iff, exists_error_iff, Classical.not_not]
        exact ⟨found, hf⟩
      rw [List.forall_mem_cons, and_iff_right hwell]
      cases found with
      | none =>
        have hnamed := ofAttributes_eq_ok_none_iff.1 hf
        have hwritten : written? f.attributes = none := by simp [written?, hnamed]
        have hcons := partsOf_cons_unmarked paging rest hwritten
        rw [hcons.1, hcons.2]
        exact ih
      | some a =>
        obtain ⟨es, hes, -, rfl⟩ := ofAttributes_eq_ok_some_iff.1 hf
        have hpage : (given es).paging = es.any (isFlag "paging") := rfl
        cases hpaging : es.any (isFlag "paging") with
        | true =>
          have hcons := partsOf_cons_page rest hes hpaging
          cases paging with
          | some page =>
            -- the field of the page is known already
            simp only [hpage, hpaging, if_true, Option.isSome_some, reduceCtorEq, hcons,
              Option.toList_some, List.length_cons, List.length_nil, false_iff]
            rintro ⟨-, hone, -⟩
            omega
          | none =>
            simp only [hpage, hpaging, if_true, Option.isSome_none, Bool.false_eq_true, if_false,
              ih, hcons]
            simp [Nat.add_comm]
        | false =>
          have hcons := partsOf_cons_criterion paging rest hes hpaging
          simp only [hpage, hpaging, Bool.false_eq_true, if_false, map_eq_ok_iff, ih, hcons]
          constructor
          · rintro ⟨found, ⟨hrest, hone, rfl⟩, rfl⟩
            exact ⟨hrest, hone, rfl⟩
          · rintro ⟨hrest, hone, rfl⟩
            exact ⟨_, ⟨hrest, hone, rfl⟩, rfl⟩

end

/-! ## The attribute of a declaration -/

/-- Tokens that name a type: `model`, an equals sign, a type with nothing left over in its groups,
and after it at most a comma. -/
def NamesModel (content model : Tokens) : Prop :=
  ∃ joint rest left,
    content = .ident "model" :: .punct '=' joint :: rest ∧
      (Grammar.phrase (Grammar.depthBound content)).type { tokens := rest } =
        .ok (model, { tokens := left }) ∧
      (left = [] ∨ ∃ joint, left = [.punct ',' joint])

/-- What may come after the type. -/
theorem optional_comma_iff {s : Input} :
    (∃ ts t, Parser.optionally (!·.isEmpty) (Parser.op ",") s = .ok (ts, t) ∧
        t.finish = .ok ()) ↔
      s.unused = none ∧ (s.tokens = [] ∨ ∃ joint, s.tokens = [.punct ',' joint]) := by
  have hcomma : ",".toList = [','] := rfl
  rw [Parser.optionally_eq]
  by_cases hempty : s.tokens = []
  · simp [hempty, Input.finish_eq_ok_iff]
  · have hmore : (!s.tokens.isEmpty) = true := by simpa using hempty
    simp only [hmore, if_true, hempty, false_or, Input.finish_eq_ok_iff, Parser.op_eq_ok_iff hcomma]
    constructor
    · rintro ⟨ts, t, ⟨-, joint, rest, htokens, rfl⟩, hunused, rfl⟩
      exact ⟨hunused, joint, htokens⟩
    · rintro ⟨hunused, joint, htokens⟩
      exact ⟨_, _, ⟨rfl, joint, [], htokens, rfl⟩, hunused, rfl⟩

theorem modelOfArguments_eq_ok_iff {content model : Tokens} :
    modelOfArguments content = .ok model ↔ NamesModel content model := by
  have hequal : "=".toList = ['='] := rfl
  unfold modelOfArguments
  constructor
  · intro h
    obtain ⟨⟨key, afterKey⟩, hkey, h⟩ := bind_eq_ok_iff.1 h
    dsimp only at h
    split at h
    · cases h
    next hmodel =>
    obtain ⟨⟨equals, afterEquals⟩, hequals, h⟩ := bind_eq_ok_iff.1 h
    obtain ⟨⟨type, ⟨left, unused⟩⟩, htype, h⟩ := bind_eq_ok_iff.1 h
    obtain ⟨⟨comma, afterComma⟩, hcomma, h⟩ := bind_eq_ok_iff.1 h
    dsimp only at h htype hcomma
    split at h
    · cases h
    obtain ⟨u, hfinish, h⟩ := bind_eq_ok_iff.1 h
    cases h
    obtain rfl : key = "model" := by simpa using hmodel
    obtain ⟨-, rest, rfl, rfl⟩ := Parser.ident_eq_ok_iff.1 (mapError_eq_ok_iff.1 hkey)
    obtain ⟨-, joint, rest, rfl, rfl⟩ :=
      (Parser.op_eq_ok_iff hequal).1 (mapError_eq_ok_iff.1 hequals)
    obtain ⟨rfl, hleft⟩ := optional_comma_iff.1
      ⟨_, _, mapError_eq_ok_iff.1 hcomma, mapError_eq_ok_iff.1 hfinish⟩
    exact ⟨joint, rest, left, rfl, mapError_eq_ok_iff.1 htype, hleft⟩
  · rintro ⟨joint, rest, left, rfl, htype, hleft⟩
    obtain ⟨comma, afterComma, hcomma, hfinish⟩ :=
      (@optional_comma_iff ⟨left, none⟩).2 ⟨rfl, hleft⟩
    have hnone : (!afterComma.tokens.isEmpty) = false := by
      simp [(Input.finish_eq_ok_iff.1 hfinish).2]
    refine bind_eq_ok_iff.2
      ⟨_, mapError_eq_ok_iff.2 (Parser.ident_eq_ok_iff.2 ⟨by decide, _, rfl, rfl⟩), ?_⟩
    refine bind_eq_ok_iff.2
      ⟨_, mapError_eq_ok_iff.2 ((Parser.op_eq_ok_iff hequal).2 ⟨rfl, _, _, rfl, rfl⟩), ?_⟩
    refine bind_eq_ok_iff.2 ⟨_, mapError_eq_ok_iff.2 htype, ?_⟩
    refine bind_eq_ok_iff.2 ⟨_, mapError_eq_ok_iff.2 hcomma, ?_⟩
    simp only [hnone, hfinish, Bool.false_eq_true, if_false]
    rfl

/-- Whether the attribute of a declaration, the first one with the name, names a type. -/
def NamedBy (attributes : List Attribute) (model : Tokens) : Prop :=
  ∃ path content tokens,
    named? "filter" attributes = some ⟨.list path content, tokens⟩ ∧ NamesModel content model

theorem modelOfAttributes_eq_ok_iff {attributes : List Attribute} {model : Tokens} :
    modelOfAttributes attributes = .ok model ↔ NamedBy attributes model := by
  unfold modelOfAttributes NamedBy
  cases named? "filter" attributes with
  | none => simp
  | some found =>
    obtain ⟨entry, tokens⟩ := found
    cases entry with
    | path p => simp [arguments, Except.bind]
    | nameValue p v => simp [arguments, Except.bind]
    | list p content =>
      simp only [arguments, Except.bind, modelOfArguments_eq_ok_iff]
      constructor
      · intro h
        exact ⟨p, content, tokens, rfl, h⟩
      · rintro ⟨p', content', tokens', heq, h⟩
        cases heq
        exact h

/-! ## The generated filter -/

theorem namedFields_eq_ok_iff {what : Derivable} {data : Data} {fields : List Field} :
    namedFields what data = .ok fields ↔ data = .record fields := by
  cases data <;> simp [namedFields]

namespace GeneratedFilter

theorem ofItem_eq_ok_iff {item : Item} {g : GeneratedFilter} :
    ofItem item = .ok g ↔
      ∃ fields model, item.data = .record fields ∧ NamedBy item.attributes model ∧
        (∀ f ∈ fields, ¬ FilterDirective.Malformed f.attributes) ∧
        (pagesOf fields).length ≤ 1 ∧ criteriaOf fields ≠ [] ∧
        g = { partsOf none fields with name := item.name, generics := item.generics, model } := by
  have hrows : ∀ fields, (partsOf none fields).rows.isEmpty = true ↔ criteriaOf fields = [] := by
    intro fields
    simp [partsOf]
  unfold ofItem
  constructor
  · intro h
    obtain ⟨fields, hfields, h⟩ := bind_eq_ok_iff.1 h
    obtain ⟨model, hmodel, h⟩ := bind_eq_ok_iff.1 h
    obtain ⟨parts, hparts, h⟩ := bind_eq_ok_iff.1 h
    obtain ⟨hwell, hone, rfl⟩ := FilterParts.ofFields_eq_ok_iff.1 hparts
    split at h
    · cases h
    next hsome =>
    rw [hrows] at hsome
    have hnamed := modelOfAttributes_eq_ok_iff.1 (mapError_eq_ok_iff.1 hmodel)
    refine ⟨fields, model, namedFields_eq_ok_iff.1 hfields, hnamed, hwell, ?_, hsome, ?_⟩
    · simpa using hone
    · exact (Except.ok.inj h).symm
  · rintro ⟨fields, model, hfields, hnamed, hwell, hone, hsome, rfl⟩
    refine bind_eq_ok_iff.2 ⟨fields, namedFields_eq_ok_iff.2 hfields, ?_⟩
    refine bind_eq_ok_iff.2
      ⟨model, mapError_eq_ok_iff.2 (modelOfAttributes_eq_ok_iff.2 hnamed), ?_⟩
    refine bind_eq_ok_iff.2
      ⟨_, FilterParts.ofFields_eq_ok_iff.2 ⟨hwell, by simpa using hone, rfl⟩, ?_⟩
    rw [if_neg (by rwa [hrows])]
    rfl

theorem read?_of_ofItem {item : Item} {g : GeneratedFilter} (h : ofItem item = .ok g) :
    read? item.name item.generics g.tokens = some g := by
  obtain ⟨fields, model, -, -, -, -, -, hg⟩ := ofItem_eq_ok_iff.1 h
  have hname : item.name = g.name := by rw [hg]
  have hgenerics : item.generics = g.generics := by rw [hg]
  rw [hname, hgenerics, read?_tokens]

/-! ### What generated code comes to

Types and fields belong to the code around a declaration: the kind that a type stands for, and what
a field of a value reads as, are taken from there. -/

section

variable (kindOf : Tokens → Kind) (held : String → Reading) (page : String → Paging)

/-- The filter that generated code makes of a value: the accessor gives what the field of the first
arm with the name holds, and nothing for any other name. -/
def toFilter (g : GeneratedFilter) : Filter where
  table := g.rows.map fun row => ⟨row.name, kindOf row.type, Setter.chain row.setters⟩
  read name := ((g.arms.find? (·.name == name)).map fun arm => held arm.field).getD .unreadable
  paging := (g.paging.map page).getD {}

variable {fields : List Field} {g : GeneratedFilter}

/-- What is generated for fields: a row and an arm for every criterion, in order, with its plain
name, and the field of the page. -/
structure WellFormed (fields : List Field) (g : GeneratedFilter) : Prop where
  rows : g.rows.map (fun row => (row.name, row.type)) =
    (criteriaOf fields).map fun f => (unraw f.name, f.type)
  arms : g.arms = (criteriaOf fields).map fun f => ⟨unraw f.name, f.name⟩
  paging : g.paging.toList = (pagesOf fields).map Field.name

theorem wellFormed_partsOf (item : Item) (model : Tokens) (hone : (pagesOf fields).length ≤ 1) :
    WellFormed fields
      { partsOf none fields with name := item.name, generics := item.generics, model } where
  rows := by simp [partsOf, rowOf, Function.comp_def]
  arms := rfl
  paging := by
    rcases Nat.le_one_iff_eq_zero_or_eq_one.1 hone with hnone | hpage
    · simp [partsOf, List.length_eq_zero_iff.1 hnone]
    · obtain ⟨f, hf⟩ := List.length_eq_one_iff.1 hpage
      simp [partsOf, hf]

/-- The names of fields are not empty, and no two of them differ by the mark of a raw one alone. -/
structure ProperlyNamed (fields : List Field) : Prop where
  nonempty : ∀ f ∈ fields, unraw f.name ≠ ""
  nodup : (fields.map fun f => unraw f.name).Nodup

theorem ProperlyNamed.criteriaOf (h : ProperlyNamed fields) :
    ProperlyNamed (criteriaOf fields) where
  nonempty f hf := h.nonempty f (List.mem_filter.1 hf).1
  nodup := h.nodup.sublist (List.filter_sublist.map _)

namespace WellFormed

theorem read_eq (hg : WellFormed fields g) (hnames : ProperlyNamed fields) {f : Field}
    (hf : f ∈ criteriaOf fields) :
    (g.toFilter kindOf held page).read (unraw f.name) = held f.name := by
  have hread : (g.toFilter kindOf held page).read =
      (Filter.ofRows ((criteriaOf fields).map fun f => (⟨unraw f.name, kindOf f.type, {}⟩,
        held f.name)) {}).read := by
    funext name
    simp [toFilter, Filter.ofRows, hg.arms, List.find?_map, Function.comp_def]
  have hnodup := hnames.criteriaOf.nodup
  rw [hread]
  exact Filter.read_ofRows (by simpa [Function.comp_def] using hnodup) (List.mem_map_of_mem hf)

theorem map_table (hg : WellFormed fields g) :
    (g.toFilter kindOf held page).table.map (fun c => (c.name, c.kind)) =
      (criteriaOf fields).map fun f => (unraw f.name, kindOf f.type) := by
  have hrows := congrArg (List.map fun row : String × Tokens => (row.1, kindOf row.2)) hg.rows
  simpa [toFilter, Function.comp_def] using hrows

theorem exists_criterion (hg : WellFormed fields g) {c : Criterion}
    (hc : c ∈ (g.toFilter kindOf held page).table) :
    ∃ f ∈ criteriaOf fields, c.name = unraw f.name ∧ c.kind = kindOf f.type := by
  have hmem := List.mem_map_of_mem (f := fun c : Criterion => (c.name, c.kind)) hc
  rw [hg.map_table kindOf held page] at hmem
  obtain ⟨f, hf, heq⟩ := List.mem_map.1 hmem
  exact ⟨f, hf, (congrArg Prod.fst heq).symm, (congrArg Prod.snd heq).symm⟩

theorem check_eq_ok (hg : WellFormed fields g) (hnames : ProperlyNamed fields)
    (hsome : criteriaOf fields ≠ [])
    (hkinds : ∀ f ∈ criteriaOf fields, ∃ type : EntryType, type.kind = kindOf f.type) :
    (g.toFilter kindOf held page).table.check = .ok () := by
  have htable := hg.map_table kindOf held page
  have hcriteria := hnames.criteriaOf
  refine Table.check_eq_ok_iff.2 ⟨fun hnil => ?_, fun c hc => ?_, ?_⟩
  · rw [hnil] at htable
    exact hsome (List.map_eq_nil_iff.1 htable.symm)
  · obtain ⟨f, hf, hname, hkind⟩ := hg.exists_criterion kindOf held page hc
    obtain ⟨type, htype⟩ := hkinds f hf
    rw [hname, hkind, ← htype]
    exact ⟨hcriteria.nonempty f hf, by cases type <;> rfl⟩
  · have hmap : (g.toFilter kindOf held page).table.map Criterion.name =
        (criteriaOf fields).map fun f => unraw f.name := by
      simpa [Function.comp_def] using congrArg (List.map Prod.fst) htable
    rw [hmap]
    exact hcriteria.nodup

theorem typed (hg : WellFormed fields g) (hnames : ProperlyNamed fields)
    (hvalues : ∀ f ∈ criteriaOf fields, ∃ (type : EntryType) (value : Scalar),
      type.kind = kindOf f.type ∧ type.reading? value = some (held f.name)) :
    (g.toFilter kindOf held page).Typed := by
  intro c hc
  obtain ⟨f, hf, hname, hkind⟩ := hg.exists_criterion kindOf held page hc
  rw [hname, hkind, hg.read_eq kindOf held page hnames hf]
  exact Reading.kind?_eq_some_iff.2 (hvalues f hf)

end WellFormed

/-- Why nothing is generated for the declaration of a filter. -/
inductive Underivable (item : Item) : Prop
  | unnamed (h : ∀ fields, item.data ≠ .record fields)
  | noModel (h : ∀ model, ¬ NamedBy item.attributes model)
  | malformed {fields : List Field} {f : Field} (hfields : item.data = .record fields)
      (hf : f ∈ fields) (h : FilterDirective.Malformed f.attributes)
  | secondPage {fields : List Field} (hfields : item.data = .record fields)
      (h : 2 ≤ (pagesOf fields).length)
  | noCriteria {fields : List Field} (hfields : item.data = .record fields)
      (h : criteriaOf fields = [])

theorem underivable_iff {item : Item} : Underivable item ↔ ¬ ∃ g, ofItem item = .ok g := by
  constructor
  · rintro h ⟨g, hg⟩
    obtain ⟨fields, model, hfields, hnamed, hwell, hone, hsome, -⟩ := ofItem_eq_ok_iff.1 hg
    cases h with
    | unnamed h => exact h fields hfields
    | noModel h => exact h model hnamed
    | malformed hfields' hf h =>
      cases hfields.symm.trans hfields'
      exact hwell _ hf h
    | secondPage hfields' h =>
      cases hfields.symm.trans hfields'
      omega
    | noCriteria hfields' h =>
      cases hfields.symm.trans hfields'
      exact hsome h
  · intro hnone
    by_cases hdata : ∃ fields, item.data = .record fields
    · obtain ⟨fields, hfields⟩ := hdata
      by_cases hmodel : ∃ model, NamedBy item.attributes model
      · obtain ⟨model, hnamed⟩ := hmodel
        by_cases hbad : ∃ f ∈ fields, FilterDirective.Malformed f.attributes
        · obtain ⟨f, hf, h⟩ := hbad
          exact .malformed hfields hf h
        by_cases hsecond : 2 ≤ (pagesOf fields).length
        · exact .secondPage hfields hsecond
        by_cases hempty : criteriaOf fields = []
        · exact .noCriteria hfields hempty
        refine absurd ⟨_, ofItem_eq_ok_iff.2
          ⟨fields, model, hfields, hnamed, fun f hf h => hbad ⟨f, hf, h⟩, ?_, hempty, rfl⟩⟩ hnone
        omega
      · exact .noModel (not_exists.1 hmodel)
    · exact .unnamed (not_exists.1 hdata)

theorem exists_deriveFilter_error_iff {item : Item} :
    (∃ e, deriveFilter item = .error e) ↔ Underivable item :=
  exists_map_error_iff.trans underivable_iff.symm

/-- **What is generated for a filter is well formed.**  Nothing is generated for the reasons of
`Underivable` and for no others; `filter` is meant there and here as the first attribute with that
name.  What is generated reads as the implementation of a filter of the named records, with a row
and an arm for each criterion and at most one field of the page.  If its fields are properly named,
each row reads the field that it is named for; the table passes the check if the criteria have types
of the library, and then every reading is of the kind that its row declares. -/
theorem derive_wellFormed (item : Item) :
    ((∃ e, deriveFilter item = .error e) ↔ Underivable item) ∧
      ∀ tokens, deriveFilter item = .ok tokens →
        ∃ fields g, item.data = .record fields ∧ tokens = g.tokens ∧
          read? item.name item.generics tokens = some g ∧ NamedBy item.attributes g.model ∧
          WellFormed fields g ∧
          (ProperlyNamed fields → ∀ kindOf held page,
            (∀ c ∈ (g.toFilter kindOf held page).table, ∃ f ∈ criteriaOf fields,
              c.name = unraw f.name ∧
                (g.toFilter kindOf held page).read c.name = held f.name) ∧
            ((∀ f ∈ criteriaOf fields, ∃ type : EntryType, type.kind = kindOf f.type) →
              (g.toFilter kindOf held page).table.check = .ok ()) ∧
            ((∀ f ∈ criteriaOf fields, ∃ (type : EntryType) (value : Scalar),
                type.kind = kindOf f.type ∧ type.reading? value = some (held f.name)) →
              (g.toFilter kindOf held page).Typed)) := by
  refine ⟨exists_deriveFilter_error_iff, fun tokens htokens => ?_⟩
  · obtain ⟨g, hg, rfl⟩ := map_eq_ok_iff.1 htokens
    have hread := read?_of_ofItem hg
    obtain ⟨fields, model, hfields, hnamed, -, hone, hsome, rfl⟩ := ofItem_eq_ok_iff.1 hg
    have hwell := wellFormed_partsOf item model hone
    refine ⟨fields, _, hfields, rfl, hread, hnamed, hwell,
      fun hnames kindOf held page => ⟨?_, ?_, ?_⟩⟩
    · intro c hc
      obtain ⟨f, hf, hname, -⟩ := hwell.exists_criterion kindOf held page hc
      refine ⟨f, hf, hname, ?_⟩
      rw [hname]
      exact hwell.read_eq kindOf held page hnames hf
    · exact hwell.check_eq_ok kindOf held page hnames hsome
    · exact hwell.typed kindOf held page hnames

end

/-- A raw field, one without an attribute, the page's, and one with a rule. -/
def mixedFields : List Field :=
  let marked (content : Tokens) : List Attribute := [⟨.list ⟨false, ["filter"]⟩ content, []⟩]
  [⟨[⟨.path ⟨false, ["filter"]⟩, []⟩], "r#type", code "Option < String >"⟩,
    ⟨[], "note", code "String"⟩,
    ⟨marked [.ident "paging"], "page", code "Paging"⟩,
    ⟨marked (code "logic =" ++ [.text "or"]), "tags", code "Vec < String >"⟩]

def mixedItem : Item where
  attributes := [⟨.list ⟨false, ["filter"]⟩ (code "model = Task"), []⟩]
  name := "TaskFilter"
  generics := ⟨false, [], false, []⟩
  data := .record mixedFields

theorem derive_wellFormed_mixed :
    let kindOf : Tokens → Kind
      | .ident "Vec" :: _ => .textList
      | _ => .text
    let held : String → Reading := fun field =>
      if field = "tags" then .textList (some []) else .text (some "open")
    ∃ tokens g, deriveFilter mixedItem = .ok tokens ∧
      read? mixedItem.name mixedItem.generics tokens = some g ∧
      g.rows.map FilterRow.name = ["type", "tags"] ∧
      g.arms = [⟨"type", "r#type"⟩, ⟨"tags", "tags"⟩] ∧ g.paging = some "page" ∧
      ∀ page, (g.toFilter kindOf held page).table.check = .ok () ∧
        (g.toFilter kindOf held page).Typed := by
  intro kindOf held
  have hok : (deriveFilter mixedItem).toBool = true := by decide +kernel
  obtain ⟨tokens, htokens⟩ := exists_eq_ok_of_toBool hok
  obtain ⟨fields, g, hfields, -, hread, -, hwell, hfilter⟩ :=
    (derive_wellFormed mixedItem).2 tokens htokens
  obtain rfl : mixedFields = fields := Data.record.inj hfields
  have hcriteria : (criteriaOf mixedFields).map
      (fun f => (f.name, kindOf f.type, held f.name)) =
      [("r#type", .text, .text (some "open")), ("tags", .textList, .textList (some []))] := by
    decide +kernel
  have hpages : (pagesOf mixedFields).map Field.name = ["page"] := by decide +kernel
  have hnames : ProperlyNamed mixedFields := ⟨by decide +kernel, by decide +kernel⟩
  have hvalues : ∀ f ∈ criteriaOf mixedFields, ∃ (type : EntryType) (value : Scalar),
      type.kind = kindOf f.type ∧ type.reading? value = some (held f.name) := by
    intro f hf
    have hmem := List.mem_map_of_mem (f := fun f => (f.name, kindOf f.type, held f.name)) hf
    rw [hcriteria] at hmem
    rcases List.mem_cons.1 hmem with heq | hmem
    · obtain ⟨-, hkind, hheld⟩ : _ ∧ _ ∧ _ := by simpa only [Prod.mk.injEq] using heq
      rw [hkind, hheld]
      exact ⟨.text true, .text "open", rfl, rfl⟩
    · obtain ⟨-, hkind, hheld⟩ : _ ∧ _ ∧ _ := by
        simpa only [List.mem_singleton, Prod.mk.injEq] using hmem
      rw [hkind, hheld]
      exact ⟨.textList false, .textList [], rfl, rfl⟩
  have hrows : g.rows.map FilterRow.name = (criteriaOf mixedFields).map fun f => unraw f.name := by
    simpa [Function.comp_def] using congrArg (List.map Prod.fst) hwell.rows
  refine ⟨tokens, g, htokens, hread, ?_, ?_, ?_, fun page => ?_⟩
  · rw [hrows]
    decide +kernel
  · rw [hwell.arms]
    decide +kernel
  · exact Option.toList_eq_singleton_iff.1 (hwell.paging.trans hpages)
  · obtain ⟨-, hcheck, htyped⟩ := hfilter hnames kindOf held page
    refine ⟨hcheck fun f hf => ?_, htyped hvalues⟩
    obtain ⟨type, value, hkind, -⟩ := hvalues f hf
    exact ⟨type, hkind⟩

end GeneratedFilter

end Criteria.Derive
