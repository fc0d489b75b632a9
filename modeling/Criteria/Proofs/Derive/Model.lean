import Criteria.Derive.Code
import Criteria.Proofs.Derive.Filter

/-!
# What is generated for a record

A field is seen by filters unless its attribute leaves it out, and by the name that the attribute
gives it.  What is generated follows from the fields that are seen, one by one
(`GeneratedModel.ofItem_eq_ok_iff`).  Of the fields before it a field knows the spellings of their
constants, and its own has to be fresh among them (`ModelParts.ofFields_eq_ok_iff`).
-/

namespace Criteria.Derive

open Criteria.Source Criteria.Source.Entry

namespace ModelDirective

/-- The entries of the attribute of a record's field, the first one with the name; without one it
has none. -/
def written? (attributes : List Attribute) : Option (List Entry) :=
  match named? "model" attributes with
  | none => some []
  | some ⟨.list _ content, _⟩ => (entries content).toOption
  | some _ => none

/-- Whether the attribute of a record's field can be read, and each of its entries may stand
there. -/
def Accepted (attributes : List Attribute) : Prop :=
  ∃ es, written? attributes = some es ∧ ∀ e ∈ es, Admits e

variable {attributes : List Attribute} {a : ModelDirective}

theorem ofArguments_eq_ok_iff {content : Tokens} :
    ofArguments content = .ok a ↔
      ∃ es, entries content = .ok es ∧ (∀ e ∈ es, Admits e) ∧ a = given es := by
  cases h : entries content <;> simp [ofArguments, h, foldlM_add_eq_ok_iff]

theorem ofAttributes_eq_ok_iff :
    ofAttributes attributes = .ok a ↔
      ∃ es, written? attributes = some es ∧ (∀ e ∈ es, Admits e) ∧ a = given es := by
  unfold ofAttributes written?
  cases h : named? "model" attributes with
  | none =>
    simp only [Except.ok.injEq, Option.some.injEq, exists_eq_left', List.not_mem_nil,
      false_implies, implies_true, true_and]
    exact eq_comm
  | some found =>
    obtain ⟨entry, tokens⟩ := found
    cases entry with
    | path p => simp [arguments, Except.bind]
    | nameValue p v => simp [arguments, Except.bind]
    | list p content =>
      simp only [arguments, Except.bind, ofArguments_eq_ok_iff, toOption_eq_some_iff]

end ModelDirective

/-! ## Fields one by one -/

/-- Whether filters see a field. -/
def isSeen (f : Field) : Bool :=
  (ModelDirective.written? f.attributes).any fun es => !es.any (isFlag "skip")

def seenOf (fields : List Field) : List Field :=
  fields.filter isSeen

/-- The name by which filters see a field. -/
def seenName (f : Field) : String :=
  (ModelDirective.given ((ModelDirective.written? f.attributes).getD [])).rename.getD
    (unraw f.name)

/-- The spelling that the constant of a field is to have. -/
def spelling (f : Field) : String :=
  Text.screaming (seenName f)

/-- The constant of a field. -/
def constantOf (f : Field) : Constant :=
  ⟨(identifier? (spelling f)).getD (spelling f), seenName f⟩

theorem ident_constantOf {f : Field} {ident : String}
    (h : identifier? (spelling f) = some ident) : (constantOf f).ident = ident := by
  rw [constantOf, h, Option.getD_some]

/-- What fields come to: a constant for each one that is seen, an arm for its kind and one for its
value. -/
def seenParts (fields : List Field) : ModelParts where
  constants := (seenOf fields).map constantOf
  kindArms := (seenOf fields).map fun f => ⟨seenName f, f.type⟩
  valueArms := (seenOf fields).map fun f => ⟨seenName f, f.name⟩

/-- Spellings that differ from each other and from those that were used before. -/
def Fresh (used spellings : List String) : Prop :=
  spellings.Nodup ∧ ∀ s ∈ spellings, s ∉ used

theorem fresh_nil_iff {spellings : List String} : Fresh [] spellings ↔ spellings.Nodup := by
  simp [Fresh]

theorem fresh_cons_iff {used spellings : List String} {s : String} :
    Fresh used (s :: spellings) ↔ s ∉ used ∧ Fresh (s :: used) spellings := by
  rw [Fresh, Fresh, List.nodup_cons, List.forall_mem_cons]
  simp only [List.mem_cons, not_or]
  constructor
  · rintro ⟨⟨hs, hnodup⟩, hfirst, hrest⟩
    refine ⟨hfirst, hnodup, fun t ht => ⟨?_, hrest t ht⟩⟩
    rintro rfl
    exact hs ht
  · rintro ⟨hfirst, hnodup, hrest⟩
    exact ⟨⟨fun hs => (hrest s hs).1 rfl, hnodup⟩, hfirst, fun t ht => (hrest t ht).2⟩

/-- Fields whose constants can be made: each spelling is an identifier, and fresh. -/
structure Spellable (used : List String) (fields : List Field) : Prop where
  fresh : Fresh used (fields.map spelling)
  identifiers : ∀ f ∈ fields, (identifier? (spelling f)).isSome = true

theorem spellable_cons_iff {used : List String} {f : Field} {fields : List Field} :
    Spellable used (f :: fields) ↔
      spelling f ∉ used ∧ (identifier? (spelling f)).isSome = true ∧
        Spellable (spelling f :: used) fields := by
  constructor
  · rintro ⟨hfresh, hidentifiers⟩
    rw [List.map_cons, fresh_cons_iff] at hfresh
    rw [List.forall_mem_cons] at hidentifiers
    exact ⟨hfresh.1, hidentifiers.1, hfresh.2, hidentifiers.2⟩
  · rintro ⟨hfirst, hidentifier, hfresh, hidentifiers⟩
    refine ⟨?_, List.forall_mem_cons.2 ⟨hidentifier, hidentifiers⟩⟩
    exact List.map_cons ▸ fresh_cons_iff.2 ⟨hfirst, hfresh⟩

variable {f : Field} {rest fields : List Field} {es : List Entry}

theorem seenOf_cons_unseen (hes : ModelDirective.written? f.attributes = some es)
    (hskip : es.any (isFlag "skip") = true) : seenOf (f :: rest) = seenOf rest :=
  List.filter_cons_of_neg (by simp [isSeen, hes, hskip])

theorem seenOf_cons_seen (hes : ModelDirective.written? f.attributes = some es)
    (hskip : es.any (isFlag "skip") = false) : seenOf (f :: rest) = f :: seenOf rest :=
  List.filter_cons_of_pos (by simp [isSeen, hes, hskip])

namespace ModelParts

variable {parts : ModelParts}

theorem ofFields_cons_unseen {used : List String}
    (ha : ModelDirective.ofAttributes f.attributes = .ok (ModelDirective.given es))
    (hskip : es.any (isFlag "skip") = true) : ofFields used (f :: rest) = ofFields used rest := by
  have hgiven : (ModelDirective.given es).skip = es.any (isFlag "skip") := rfl
  rw [ofFields, ha]
  exact if_pos (hgiven.trans hskip)

/-- A field that is seen adds its spelling to those in use. -/
theorem ofFields_cons_seen_eq_ok_iff {used : List String}
    (hes : ModelDirective.written? f.attributes = some es)
    (ha : ModelDirective.ofAttributes f.attributes = .ok (ModelDirective.given es))
    (hskip : es.any (isFlag "skip") = false) :
    ofFields used (f :: rest) = .ok parts ↔
      spelling f ∉ used ∧ ∃ ident found, identifier? (spelling f) = some ident ∧
        ofFields (spelling f :: used) rest = .ok found ∧
        found.addField f (seenName f) ident = parts := by
  have hgiven : (ModelDirective.given es).skip = es.any (isFlag "skip") := rfl
  have hname : (ModelDirective.given es).rename.getD (unraw f.name) = seenName f := by
    rw [seenName, hes, Option.getD_some]
  have hspelling : Text.screaming (seenName f) = spelling f := rfl
  rw [ofFields, ha]
  dsimp only
  rw [hgiven, hskip, if_neg Bool.false_ne_true, hname, hspelling]
  by_cases hused : spelling f ∈ used
  · rw [if_pos (List.contains_iff_mem.2 hused)]
    simp [hused]
  rw [if_neg (mt List.contains_iff_mem.1 hused), and_iff_right hused]
  cases identifier? (spelling f) with
  | none => simp
  | some ident => simp [map_eq_ok_iff]

theorem ofFields_eq_ok_iff {used : List String} :
    ofFields used fields = .ok parts ↔
      (∀ f ∈ fields, ModelDirective.Accepted f.attributes) ∧ Spellable used (seenOf fields) ∧
        parts = seenParts fields := by
  induction fields generalizing used parts with
  | nil =>
    have hnone : Spellable used [] := ⟨⟨List.nodup_nil, by simp⟩, by simp⟩
    simp [ofFields, seenParts, seenOf, hnone, eq_comm]
  | cons f rest ih =>
    rw [List.forall_mem_cons]
    by_cases hf : ModelDirective.Accepted f.attributes
    · rw [and_iff_right hf]
      obtain ⟨es, hes, hall⟩ := hf
      have ha := ModelDirective.ofAttributes_eq_ok_iff.2 ⟨es, hes, hall, rfl⟩
      cases hskip : es.any (isFlag "skip") with
      | true =>
        have hseen : seenOf (f :: rest) = seenOf rest := seenOf_cons_unseen hes hskip
        have hparts : seenParts (f :: rest) = seenParts rest := by
          simp only [seenParts, hseen]
        rw [ofFields_cons_unseen ha hskip, hseen, hparts]
        exact ih
      | false =>
        have hparts : seenParts (f :: rest) =
            (seenParts rest).addField f (seenName f) (constantOf f).ident := by
          simp only [seenParts, seenOf_cons_seen hes hskip, List.map_cons, addField, constantOf]
        rw [ofFields_cons_seen_eq_ok_iff hes ha hskip, seenOf_cons_seen hes hskip, hparts,
          spellable_cons_iff]
        constructor
        · rintro ⟨hused, ident, found, hident, hfound, rfl⟩
          obtain ⟨hrest, hspellable, rfl⟩ := ih.1 hfound
          rw [ident_constantOf hident]
          exact ⟨hrest, ⟨hused, Option.isSome_of_eq_some hident, hspellable⟩, rfl⟩
        · rintro ⟨hrest, ⟨hused, hsome, hspellable⟩, rfl⟩
          obtain ⟨ident, hident⟩ := Option.isSome_iff_exists.1 hsome
          rw [ident_constantOf hident]
          exact ⟨hused, ident, _, hident, ih.2 ⟨hrest, hspellable, rfl⟩, rfl⟩
    · have herror : ∀ a, ModelDirective.ofAttributes f.attributes ≠ .ok a := by
        intro a ha
        obtain ⟨es, hes, hall, -⟩ := ModelDirective.ofAttributes_eq_ok_iff.1 ha
        exact hf ⟨es, hes, hall⟩
      obtain ⟨e, he⟩ := eq_error_of_ne_ok herror
      simp [ofFields, he, hf]

/-- Parts with a name for each field that is seen, and with an arm for its kind and one for its
value. -/
structure Reflects (fields : List Field) (parts : ModelParts) : Prop where
  constants : parts.constants.map Constant.name = (seenOf fields).map seenName
  kindArms : parts.kindArms = (seenOf fields).map fun f => ⟨seenName f, f.type⟩
  valueArms : parts.valueArms = (seenOf fields).map fun f => ⟨seenName f, f.name⟩

theorem reflects_seenParts (fields : List Field) : Reflects fields (seenParts fields) where
  constants := by simp [seenParts, constantOf, Function.comp_def]
  kindArms := rfl
  valueArms := rfl

end ModelParts

namespace GeneratedModel

variable {item : Item} {m : GeneratedModel}

theorem ofItem_eq_ok_iff :
    ofItem item = .ok m ↔
      ∃ fields, item.data = .record fields ∧
        (∀ f ∈ fields, ModelDirective.Accepted f.attributes) ∧ Spellable [] (seenOf fields) ∧
        m = { seenParts fields with name := item.name, generics := item.generics } := by
  unfold ofItem
  simp only [bind_eq_ok_iff, namedFields_eq_ok_iff, ModelParts.ofFields_eq_ok_iff, pure,
    Except.pure, Except.ok.injEq]
  constructor
  · rintro ⟨fields, hfields, parts, ⟨hall, hspellable, rfl⟩, rfl⟩
    exact ⟨fields, hfields, hall, hspellable, rfl⟩
  · rintro ⟨fields, hfields, hall, hspellable, rfl⟩
    exact ⟨fields, hfields, _, ⟨hall, hspellable, rfl⟩, rfl⟩

theorem of_ofItem (h : ofItem item = .ok m) :
    ∃ fields, item.data = .record fields ∧
      (∀ f ∈ fields, ModelDirective.Accepted f.attributes) ∧
      ModelParts.Reflects fields m.toModelParts := by
  obtain ⟨fields, hfields, hall, -, rfl⟩ := ofItem_eq_ok_iff.1 h
  exact ⟨fields, hfields, hall, ModelParts.reflects_seenParts fields⟩

theorem read?_of_ofItem (h : ofItem item = .ok m) :
    read? item.name item.generics m.tokens = some m := by
  obtain ⟨fields, -, -, -, hm⟩ := ofItem_eq_ok_iff.1 h
  have hname : item.name = m.name := by rw [hm]
  have hgenerics : item.generics = m.generics := by rw [hm]
  rw [hname, hgenerics, read?_tokens]

end GeneratedModel

end Criteria.Derive
