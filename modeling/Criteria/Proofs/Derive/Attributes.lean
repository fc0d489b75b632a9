import Criteria.Proofs.Derive.Model
import Criteria.Proofs.Derive.Rules
import Mathlib.Data.List.Forall2

/-!
# Which attributes count

Of the attributes of a field the first one with the name is read, entry by entry, and what it says
is found in the generated code.  The others might as well not be there: what is generated stays the
same without them (`deriveFilter_attended`, `deriveModel_attended`).

* `first_attribute_counts`: both, for filters and for records.
-/

namespace Criteria.Source

/-- What a declaration has for named fields. -/
def Data.fields : Data → List Field
  | record fields => fields
  | tuple | unit | enum | union => []

theorem Data.eq_record_of_mem {data : Data} {f : Field} (h : f ∈ data.fields) :
    data = .record data.fields := by
  cases data with
  | record fields => rfl
  | tuple => cases h
  | unit => cases h
  | enum => cases h
  | union => cases h

/-- The field with its first attribute of a name alone. -/
def Field.attended (name : String) (f : Field) : Field :=
  { f with attributes := (Derive.named? name f.attributes).toList }

/-- The declaration with its fields so. -/
def Item.attended (name : String) (item : Item) : Item :=
  match item.data with
  | .record fields => { item with data := .record (fields.map (Field.attended name)) }
  | _ => item

end Criteria.Source

namespace Criteria.Derive

open Criteria.Source Criteria.Source.Entry

/-! ## The first attribute alone -/

theorem named?_attended (name : String) (f : Field) :
    named? name (f.attended name).attributes = named? name f.attributes := by
  unfold Field.attended
  cases h : named? name f.attributes with
  | none => rfl
  | some a =>
    have ha := List.find?_some (p := fun b : Attribute => b.entry.name.isIdent name) h
    simp [named?, ha]

theorem FilterParts.ofFields_map_attended (paging : Option String) (fields : List Field) :
    ofFields paging (fields.map (Field.attended "filter")) = ofFields paging fields := by
  induction fields generalizing paging with
  | nil => rfl
  | cons f rest ih =>
    have hattributes : FilterDirective.ofAttributes (f.attended "filter").attributes =
        FilterDirective.ofAttributes f.attributes := by
      unfold FilterDirective.ofAttributes
      rw [named?_attended]
    simp only [List.map_cons, ofFields, hattributes, ih]
    rfl

theorem ModelParts.ofFields_map_attended (used : List String) (fields : List Field) :
    ofFields used (fields.map (Field.attended "model")) = ofFields used fields := by
  induction fields generalizing used with
  | nil => rfl
  | cons f rest ih =>
    have hattributes : ModelDirective.ofAttributes (f.attended "model").attributes =
        ModelDirective.ofAttributes f.attributes := by
      unfold ModelDirective.ofAttributes
      rw [named?_attended]
    simp only [List.map_cons, ofFields, hattributes, ih]
    rfl

theorem deriveFilter_attended (item : Item) :
    deriveFilter (item.attended "filter") = deriveFilter item := by
  obtain ⟨attributes, name, generics, data⟩ := item
  cases data with
  | record fields =>
    simp only [Item.attended, deriveFilter, GeneratedFilter.ofItem, namedFields,
      bind, Except.bind, FilterParts.ofFields_map_attended]
  | tuple => rfl
  | unit => rfl
  | enum => rfl
  | union => rfl

theorem deriveModel_attended (item : Item) :
    deriveModel (item.attended "model") = deriveModel item := by
  obtain ⟨attributes, name, generics, data⟩ := item
  cases data with
  | record fields =>
    simp only [Item.attended, deriveModel, GeneratedModel.ofItem, namedFields,
      bind, Except.bind, ModelParts.ofFields_map_attended]
  | tuple => rfl
  | unit => rfl
  | enum => rfl
  | union => rfl

/-! ## What the first attribute says -/

/-- Code that reads as a filter in which each row has the rules of its field's first attribute,
while that of the page's field sets none. -/
def FilterReflects (item : Item) (tokens : Tokens) : Prop :=
  ∃ g : GeneratedFilter, tokens = g.tokens ∧
    GeneratedFilter.read? item.name item.generics tokens = some g ∧
    List.Forall₂ (fun f row => row.name = unraw f.name ∧
      ∃ es rules, FilterDirective.written? f.attributes = some es ∧
        rulesOf? (setterTokens row.setters) = some rules ∧ Arrives es rules)
      (criteriaOf item.data.fields) g.rows ∧
    ∀ f ∈ pagesOf item.data.fields, ∀ es, FilterDirective.written? f.attributes = some es →
      ∀ e ∈ es, FilterDirective.Idle e

/-- Code that reads as a record without the fields that their first attribute leaves out, and with
the others under the names that it gives them last. -/
def ModelReflects (item : Item) (tokens : Tokens) : Prop :=
  ∃ m : GeneratedModel, tokens = m.tokens ∧
    GeneratedModel.read? item.name item.generics tokens = some m ∧
    ModelParts.Reflects item.data.fields m.toModelParts ∧
    ∀ f ∈ seenOf item.data.fields, ∃ es, ModelDirective.written? f.attributes = some es ∧
      LastGives es "rename" text? (unraw f.name) (seenName f)

/-- What becomes of the attributes with a name: the first one of a field counts alone, an entry in
it that may not stand there is refused, and what the others say is read in what is generated. -/
structure FirstCounts (name : String) (derive : Item → Except DeriveError Tokens)
    (written? : List Attribute → Option (List Entry)) (Admits : Entry → Prop)
    (Reflects : Item → Tokens → Prop) (item : Item) : Prop where
  alone : derive (item.attended name) = derive item
  refused : ∀ f ∈ item.data.fields, ∀ es, written? f.attributes = some es →
    (∃ e ∈ es, ¬ Admits e) → ∃ err, derive item = .error err
  reflected : ∀ tokens, derive item = .ok tokens → Reflects item tokens

theorem FilterDirective.idle_of_accepted {es : List Entry} (h : Accepted es)
    (hpaging : es.any (isFlag "paging") = true) : ∀ e ∈ es, Idle e := by
  have hok : ofEntries es = .ok (given es) := ofEntries_eq_ok_iff.2 ⟨h.1, h.2, rfl⟩
  exact ((exists_ofEntries_iff_of_paging (List.any_eq_true.1 hpaging)).1 ⟨_, hok⟩).1

theorem filterReflects_of_derive {item : Item} {tokens : Tokens}
    (h : deriveFilter item = .ok tokens) : FilterReflects item tokens := by
  obtain ⟨g, hg, rfl⟩ := map_eq_ok_iff.1 h
  have hread := GeneratedFilter.read?_of_ofItem hg
  obtain ⟨fields, model, hfields, -, hwell, -, -, rfl⟩ := GeneratedFilter.ofItem_eq_ok_iff.1 hg
  rw [FilterReflects, hfields]
  have haccepted : ∀ f ∈ fields, ∀ es, FilterDirective.written? f.attributes = some es →
      FilterDirective.Accepted es := by
    intro f hf es hes
    exact Classical.not_not.1 ((not_congr (FilterDirective.malformed_iff hes)).1 (hwell f hf))
  refine ⟨_, rfl, hread, ?_, ?_⟩
  · refine List.forall₂_map_right_iff.2 (List.forall₂_same.2 fun f hf => ⟨rfl, ?_⟩)
    obtain ⟨hmem, hcriterion⟩ := List.mem_filter.1 hf
    obtain ⟨es, hes, -⟩ := (Option.any_eq_true _ _).1 hcriterion
    refine ⟨es, (FilterDirective.given es).rules, hes, ?_,
      FilterDirective.arrives_rules_given (haccepted f hmem es hes).1⟩
    rw [rulesOf?_setterTokens, rowOf, hes, Option.getD_some, FilterDirective.chain_setters]
  · intro f hf es hes
    obtain ⟨hmem, hpage⟩ := List.mem_filter.1 hf
    rw [holdsPage, hes] at hpage
    exact FilterDirective.idle_of_accepted (haccepted f hmem es hes) hpage

theorem modelReflects_of_derive {item : Item} {tokens : Tokens}
    (h : deriveModel item = .ok tokens) : ModelReflects item tokens := by
  obtain ⟨m, hm, rfl⟩ := map_eq_ok_iff.1 h
  obtain ⟨fields, hfields, hall, hreflects⟩ := GeneratedModel.of_ofItem hm
  rw [ModelReflects, hfields]
  refine ⟨m, rfl, GeneratedModel.read?_of_ofItem hm, hreflects, fun f hf => ?_⟩
  obtain ⟨es, hes, hadmits⟩ := hall f (List.mem_filter.1 hf).1
  have hname : seenName f = ((lastAbout "rename" es).bind text?).getD (unraw f.name) := by
    rw [seenName, hes]
    rfl
  refine ⟨es, hes, ?_⟩
  rw [hname]
  exact lastGives_bind_lastAbout _ fun e he => (hadmits e he).isSome_text?

/-- **The first attribute counts, and the first alone.**  An entry in the first attribute of a
field that may not stand there is refused.  Otherwise the row of the field has the rules that the
attribute gives, or the field of a record is left out or renamed as it says; beside the mark of the
page's field there are no rules.  Whatever further attributes with the name hold, valid or not,
makes no difference. -/
theorem first_attribute_counts (item : Item) :
    FirstCounts "filter" deriveFilter FilterDirective.written? FilterDirective.Admits
        FilterReflects item ∧
      FirstCounts "model" deriveModel ModelDirective.written? ModelDirective.Admits
        ModelReflects item := by
  constructor
  · refine ⟨deriveFilter_attended item, ?_, fun _ => filterReflects_of_derive⟩
    rintro f hf es hes ⟨e, he, hadmits⟩
    refine GeneratedFilter.exists_deriveFilter_error_iff.2
      (.malformed (Data.eq_record_of_mem hf) hf ((FilterDirective.malformed_iff hes).2 ?_))
    exact fun haccepted => hadmits (haccepted.1 e he)
  · refine ⟨deriveModel_attended item, ?_, fun _ => modelReflects_of_derive⟩
    rintro f hf es hes ⟨e, he, hadmits⟩
    rw [exists_error_iff]
    rintro ⟨tokens, htokens⟩
    obtain ⟨m, hm, -⟩ := map_eq_ok_iff.1 htokens
    obtain ⟨fields, hfields, hall, -⟩ := GeneratedModel.of_ofItem hm
    rw [hfields] at hf
    obtain ⟨es', hes', hadmitted⟩ := hall f hf
    cases hes.symm.trans hes'
    exact hadmits (hadmitted e he)

/-- A second attribute with a word that may not stand there, and code is generated all the same. -/
theorem second_attribute_dropped :
    let second : Attribute := ⟨.list ⟨false, ["filter"]⟩ [.ident "colour"], []⟩
    let field : Field :=
      ⟨[⟨.path ⟨false, ["filter"]⟩, []⟩, second], "id", code "Option < String >"⟩
    let item : Item :=
      { attributes := [⟨.list ⟨false, ["filter"]⟩ (code "model = Task"), []⟩]
        name := "TaskFilter"
        generics := ⟨false, [], false, []⟩
        data := .record [field] }
    (∃ es, FilterDirective.written? [second] = some es ∧
        ∃ e ∈ es, ¬ FilterDirective.Admits e) ∧
      ∃ tokens, deriveFilter item = .ok tokens := by
  intro second field item
  have hok : (deriveFilter item).toBool = true := by decide +kernel
  refine ⟨⟨[.path ⟨false, ["colour"]⟩], rfl, .path ⟨false, ["colour"]⟩, by simp, ?_⟩,
    exists_eq_ok_of_toBool hok⟩
  intro h
  cases h with
  | flag hp hkey =>
    cases hp
    exact absurd hkey (by decide)

end Criteria.Derive
