import Criteria.Proofs.Derive.Model
import Criteria.Proofs.Record
import Criteria.Proofs.Source.Standing
import Criteria.Proofs.Text.Screaming
import Mathlib.Data.List.Forall2
import Mathlib.Data.List.Nodup

/-!
# No field of a record hides another

Two fields that are seen never have one name, since then the spellings of their constants would be
alike: so each arm is the one taken for its name, and a name is known exactly if a field is seen by
it.  The constants themselves are told apart only as far as their spellings are.  A spelling is
compared with the others letter by letter, but taken for the identifier that stands alone in it, so
that two constants get one identifier if their spellings differ in blanks and comments around it.

* `derive_unshadowed`: for what reasons nothing is generated, which arm is taken for a name, and
  when the constants differ.
* `Unshadowed.conforms`: the records that generated code makes conform to its schema.
-/

namespace Criteria

namespace Source

theorem isAround_screamed {c : Char} (h : isAround c = false) :
    isAround (Text.screamed c) = false := by
  unfold Text.screamed
  split
  · decide
  by_cases hsmall : 'a' ≤ c ∧ c ≤ 'z'
  · have hmin : 97 ≤ c.toNat := hsmall.1
    have hmax : c.toNat ≤ 122 := hsmall.2
    have hcapitals : ∀ n < 91, 65 ≤ n → sourceBlanks.has n = false := by decide
    rw [isAround_eq_false_iff, Text.toNat_capitalOf hsmall]
    exact ⟨hcapitals _ (by omega) (by omega), by omega, by omega⟩
  · rwa [Text.capitalOf, if_neg hsmall]

end Source

namespace Derive

open Criteria.Source Criteria.Source.Entry

/-! ## Spellings -/

/-- A name without blanks, slashes and byte order marks. -/
def IsBare (name : String) : Prop :=
  ∀ c ∈ name.toList, isAround c = false

variable {fields : List Field} {f : Field}

theorem isBare_spelling (h : IsBare (seenName f)) : IsBare (spelling f) := by
  intro c hc
  rw [spelling, Text.screaming, String.toList_ofList] at hc
  exact Text.forall_mem_screamingFrom (P := fun c => isAround c = false) (by decide)
    (fun d hd => isAround_screamed (h d hd)) c hc

/-- Two names are one only if their spellings are. -/
theorem nodup_seenName (h : (fields.map spelling).Nodup) : (fields.map seenName).Nodup := by
  refine List.Nodup.of_map Text.screaming ?_
  rw [List.map_map]
  exact h

/-- A constant with the name of a field, whose identifier stands alone in the spelling. -/
structure Stands (f : Field) (c : Constant) : Prop where
  name : c.name = seenName f
  keyword : keywords.contains c.ident = false
  alone : StandsAlone c.ident (spelling f)

theorem stands_constantOf (h : (identifier? (spelling f)).isSome = true) :
    Stands f (constantOf f) := by
  obtain ⟨ident, hident⟩ := Option.isSome_iff_exists.1 h
  obtain ⟨hkeyword, halone⟩ := identifier?_eq_some_iff.1 hident
  rw [← ident_constantOf hident] at hkeyword halone
  exact ⟨rfl, hkeyword, halone⟩

/-- One identifier stands alone in the spellings of two fields. -/
def Clash (f g : Field) : Prop :=
  ∃ ident, StandsAlone ident (spelling f) ∧ StandsAlone ident (spelling g)

theorem ident_eq_iff_clash {f g : Field} {c d : Constant} (hc : Stands f c) (hd : Stands g d) :
    c.ident = d.ident ↔ Clash f g := by
  constructor
  · intro heq
    exact ⟨c.ident, hc.alone, heq ▸ hd.alone⟩
  · rintro ⟨ident, hf, hg⟩
    rw [hc.alone.unique hf, hd.alone.unique hg]

theorem nodup_ident_iff (h : ∀ f ∈ fields, Stands f (constantOf f)) :
    ((fields.map constantOf).map Constant.ident).Nodup ↔
      fields.Pairwise fun f g => ¬ Clash f g := by
  rw [List.map_map, List.Nodup, List.pairwise_map]
  exact List.Pairwise.iff_of_mem fun hf hg => not_congr (ident_eq_iff_clash (h _ hf) (h _ hg))

theorem map_ident_eq (h : ∀ f ∈ fields, Stands f (constantOf f))
    (hbare : ∀ f ∈ fields, IsBare (seenName f)) :
    (fields.map constantOf).map Constant.ident = fields.map spelling := by
  rw [List.map_map]
  exact List.map_congr_left fun f hf => (h f hf).alone.eq_of_bare (isBare_spelling (hbare f hf))

namespace GeneratedModel

variable {m : GeneratedModel}

/-! ## Arms -/

/-- The schema that generated code makes: for a name the kind of the type in its first arm. -/
def toSchema (kindOf : Tokens → Kind) (m : GeneratedModel) : Schema :=
  fun name => (m.kindArms.find? (·.name == name)).map fun arm => kindOf arm.type

/-- The record that generated code makes of a value: for a name what the field in its first arm
holds, and an empty cell if there is none. -/
def toRecord (held : String → Cell) (m : GeneratedModel) : Record :=
  fun name => ((m.valueArms.find? (·.name == name)).map fun arm => held arm.field).getD .none

/-- Arms for the fields that are seen, with names that differ. -/
structure Unshadowed (fields : List Field) (m : GeneratedModel) : Prop where
  reflects : ModelParts.Reflects fields m.toModelParts
  names : ((seenOf fields).map seenName).Nodup

namespace Unshadowed

variable (kindOf : Tokens → Kind) (held : String → Cell)

theorem toSchema_eq (h : Unshadowed fields m) (name : String) :
    m.toSchema kindOf name =
      ((seenOf fields).find? (seenName · == name)).map fun f => kindOf f.type := by
  simp [toSchema, h.reflects.kindArms, List.find?_map, Function.comp_def]

theorem toRecord_eq (h : Unshadowed fields m) (name : String) :
    m.toRecord held name =
      (((seenOf fields).find? (seenName · == name)).map fun f => held f.name).getD .none := by
  simp [toRecord, h.reflects.valueArms, List.find?_map, Function.comp_def]

/-- The arms of a field are the ones taken for its name. -/
theorem reached (h : Unshadowed fields m) (hf : f ∈ seenOf fields) :
    m.toSchema kindOf (seenName f) = some (kindOf f.type) ∧
      m.toRecord held (seenName f) = held f.name := by
  rw [h.toSchema_eq, h.toRecord_eq, find?_key_eq_some h.names hf]
  exact ⟨rfl, rfl⟩

theorem isSome_toSchema_iff (h : Unshadowed fields m) {name : String} :
    (m.toSchema kindOf name).isSome = true ↔ ∃ f ∈ seenOf fields, seenName f = name := by
  simp [h.toSchema_eq]

/-- The record conforms to the schema if each field that is seen holds a cell of the kind that its
type stands for. -/
theorem conforms (h : Unshadowed fields m)
    (hfits : ∀ f ∈ seenOf fields, (held f.name).fits (kindOf f.type) = true) :
    (m.toRecord held).Conforms (m.toSchema kindOf) := by
  intro name kind hkind
  obtain ⟨f, hf, rfl⟩ := (h.isSome_toSchema_iff kindOf).1 (Option.isSome_of_eq_some hkind)
  obtain ⟨hschema, hrecord⟩ := h.reached kindOf held hf
  cases hschema.symm.trans hkind
  rw [hrecord]
  exact hfits f hf

end Unshadowed

/-! ## What is refused -/

/-- Why nothing is generated for the declaration of a record. -/
inductive Underivable (item : Item) : Prop
  | unnamed (h : ∀ fields, item.data ≠ .record fields)
  | malformed {fields : List Field} {f : Field} (hfields : item.data = .record fields)
      (hf : f ∈ fields) (h : ¬ ModelDirective.Accepted f.attributes)
  | alike {fields : List Field} (hfields : item.data = .record fields)
      (h : ¬ ((seenOf fields).map spelling).Nodup)
  | unspellable {fields : List Field} {f : Field} (hfields : item.data = .record fields)
      (hf : f ∈ seenOf fields)
      (h : ∀ ident, keywords.contains ident = false → ¬ StandsAlone ident (spelling f))

theorem isSome_identifier?_iff {s : String} :
    (identifier? s).isSome = true ↔
      ∃ ident, keywords.contains ident = false ∧ StandsAlone ident s := by
  simp only [Option.isSome_iff_exists, identifier?_eq_some_iff]

theorem underivable_iff {item : Item} : Underivable item ↔ ¬ ∃ m, ofItem item = .ok m := by
  constructor
  · rintro h ⟨m, hm⟩
    obtain ⟨fields, hfields, hall, hspellable, -⟩ := ofItem_eq_ok_iff.1 hm
    cases h with
    | unnamed h => exact h fields hfields
    | malformed hfields' hf h =>
      cases hfields.symm.trans hfields'
      exact h (hall _ hf)
    | alike hfields' h =>
      cases hfields.symm.trans hfields'
      exact h hspellable.fresh.1
    | unspellable hfields' hf h =>
      cases hfields.symm.trans hfields'
      obtain ⟨ident, hkeyword, halone⟩ := isSome_identifier?_iff.1 (hspellable.identifiers _ hf)
      exact h ident hkeyword halone
  · intro hnone
    by_cases hdata : ∃ fields, item.data = .record fields
    · obtain ⟨fields, hfields⟩ := hdata
      by_cases hbad : ∃ f ∈ fields, ¬ ModelDirective.Accepted f.attributes
      · obtain ⟨f, hf, h⟩ := hbad
        exact .malformed hfields hf h
      by_cases hfresh : ((seenOf fields).map spelling).Nodup
      · by_cases hnames : ∀ f ∈ seenOf fields, (identifier? (spelling f)).isSome = true
        · have hall : ∀ f ∈ fields, ModelDirective.Accepted f.attributes :=
            fun f hf => Classical.not_not.1 fun h => hbad ⟨f, hf, h⟩
          exact absurd ⟨_, ofItem_eq_ok_iff.2
            ⟨fields, hfields, hall, ⟨fresh_nil_iff.2 hfresh, hnames⟩, rfl⟩⟩ hnone
        · simp only [Classical.not_forall] at hnames
          obtain ⟨f, hf, hident⟩ := hnames
          refine .unspellable hfields hf fun ident hkeyword halone => ?_
          exact hident (isSome_identifier?_iff.2 ⟨ident, hkeyword, halone⟩)
      · exact .alike hfields hfresh
    · exact .unnamed (not_exists.1 hdata)

theorem exists_deriveModel_error_iff {item : Item} :
    (∃ e, deriveModel item = .error e) ↔ Underivable item :=
  exists_map_error_iff.trans underivable_iff.symm

/-! ## What is generated -/

/-- **No field of a record hides another.**  Nothing is generated for the reasons of `Underivable`
and for no others; that two spellings are alike is one of them.  What is generated reads as the
implementation of a record with an arm for the kind and one for the value of each field that is
seen, in order, under names that differ: these arms are the ones taken for the name, and no other
name is known.  There is a constant for each of the fields as well.  The identifiers of the constants differ exactly if no two spellings clash, and
they are the spellings themselves if there are no blanks, slashes and byte order marks in the
names. -/
theorem derive_unshadowed (item : Item) :
    ((∃ e, deriveModel item = .error e) ↔ Underivable item) ∧
      ∀ tokens, deriveModel item = .ok tokens →
        ∃ fields m, item.data = .record fields ∧ tokens = m.tokens ∧
          read? item.name item.generics tokens = some m ∧ Unshadowed fields m ∧
          (∀ kindOf held, ∀ f ∈ seenOf fields,
            m.toSchema kindOf (seenName f) = some (kindOf f.type) ∧
              m.toRecord held (seenName f) = held f.name) ∧
          (∀ kindOf name, (m.toSchema kindOf name).isSome = true ↔
            ∃ f ∈ seenOf fields, seenName f = name) ∧
          List.Forall₂ Stands (seenOf fields) m.constants ∧
          ((m.constants.map Constant.ident).Nodup ↔
            (seenOf fields).Pairwise fun f g => ¬ Clash f g) ∧
          ((∀ f ∈ seenOf fields, IsBare (seenName f)) →
            m.constants.map Constant.ident = (seenOf fields).map spelling ∧
              (m.constants.map Constant.ident).Nodup) := by
  refine ⟨exists_deriveModel_error_iff, fun tokens htokens => ?_⟩
  obtain ⟨m, hm, rfl⟩ := map_eq_ok_iff.1 htokens
  have hread := read?_of_ofItem hm
  obtain ⟨fields, hfields, -, hspellable, rfl⟩ := ofItem_eq_ok_iff.1 hm
  have hspellings : ((seenOf fields).map spelling).Nodup := hspellable.fresh.1
  have hunshadowed : Unshadowed fields
      { seenParts fields with name := item.name, generics := item.generics } :=
    ⟨ModelParts.reflects_seenParts fields, nodup_seenName hspellings⟩
  have hstands : ∀ f ∈ seenOf fields, Stands f (constantOf f) :=
    fun f hf => stands_constantOf (hspellable.identifiers f hf)
  refine ⟨fields, _, hfields, rfl, hread, hunshadowed,
    fun kindOf held _ => hunshadowed.reached kindOf held,
    fun kindOf _ => hunshadowed.isSome_toSchema_iff kindOf, ?_, nodup_ident_iff hstands, ?_⟩
  · exact List.forall₂_map_right_iff.2 (List.forall₂_same.2 hstands)
  · intro hbare
    have hidents := map_ident_eq hstands hbare
    exact ⟨hidents, hidents ▸ hspellings⟩

/-- A field in mixed case, a renamed one, and one that is left out. -/
def taskFields : List Field :=
  let marked (content : Tokens) : List Attribute := [⟨.list ⟨false, ["model"]⟩ content, []⟩]
  [⟨[], "createdAt", code "Timestamp"⟩,
    ⟨marked (code "rename =" ++ [.text "my-tags"]), "tags", code "Vec < String >"⟩,
    ⟨marked [.ident "skip"], "cache", code "u64"⟩]

def taskItem : Item where
  attributes := []
  name := "Task"
  generics := ⟨false, [], false, []⟩
  data := .record taskFields

theorem derive_unshadowed_task :
    let kindOf : Tokens → Kind
      | .ident "Vec" :: _ => .textList
      | _ => .date
    let held : String → Cell := fun field =>
      if field = "tags" then .textList ["new"] else .none
    ∃ tokens m, deriveModel taskItem = .ok tokens ∧
      read? taskItem.name taskItem.generics tokens = some m ∧
      m.constants.map Constant.ident = ["CREATED_AT", "MY_TAGS"] ∧
      m.toSchema kindOf "my-tags" = some .textList ∧
      m.toRecord held "my-tags" = .textList ["new"] ∧ m.toSchema kindOf "tags" = none := by
  intro kindOf held
  have hok : (deriveModel taskItem).toBool = true := by decide +kernel
  obtain ⟨tokens, htokens⟩ := exists_eq_ok_of_toBool hok
  obtain ⟨fields, m, hfields, -, hread, -, hreached, hknown, -, -, hbare⟩ :=
    (derive_unshadowed taskItem).2 tokens htokens
  obtain rfl : taskFields = fields := Data.record.inj hfields
  have hseen : (seenOf taskFields).map (fun f => (seenName f, f.name, kindOf f.type)) =
      [("createdAt", "createdAt", .date), ("my-tags", "tags", .textList)] := by
    decide +kernel
  have hnames : (seenOf taskFields).map seenName = ["createdAt", "my-tags"] := by
    simpa [Function.comp_def] using congrArg (List.map Prod.fst) hseen
  have hspellings : (seenOf taskFields).map spelling = ["CREATED_AT", "MY_TAGS"] := by
    decide +kernel
  refine ⟨tokens, m, htokens, hread, ?_, ?_⟩
  · have hall : (seenOf taskFields).all (fun f => (seenName f).toList.all fun c => !isAround c) =
        true := by
      decide +kernel
    rw [(hbare fun f hf c hc => ?_).1, hspellings]
    have hc := List.all_eq_true.1 (List.all_eq_true.1 hall f hf) c hc
    rwa [Bool.not_eq_true'] at hc
  obtain ⟨tags, htags, heq⟩ : ∃ f ∈ seenOf taskFields,
      (seenName f, f.name, kindOf f.type) = ("my-tags", "tags", .textList) := by
    rw [← List.mem_map, hseen]
    exact List.mem_cons_of_mem _ List.mem_cons_self
  simp only [Prod.mk.injEq] at heq
  obtain ⟨hname, hfield, hkind⟩ := heq
  obtain ⟨hschema, hrecord⟩ := hreached kindOf held tags htags
  rw [hname, hkind] at hschema
  rw [hname, hfield] at hrecord
  refine ⟨hschema, hrecord, Option.not_isSome_iff_eq_none.1 fun hsome => ?_⟩
  have hmem := List.mem_map.2 ((hknown kindOf "tags").1 hsome)
  rw [hnames] at hmem
  exact absurd hmem (by decide)

/-- A space after the name makes another spelling, but no other identifier. -/
theorem derive_unshadowed_clash :
    let renamed : Attribute := ⟨.list ⟨false, ["model"]⟩ (code "rename =" ++ [.text "x "]), []⟩
    let item : Item :=
      { attributes := []
        name := "Task"
        generics := ⟨false, [], false, []⟩
        data := .record [⟨[], "x", code "String"⟩, ⟨[renamed], "y", code "String"⟩] }
    ∃ tokens m, deriveModel item = .ok tokens ∧ read? item.name item.generics tokens = some m ∧
      m.constants = [⟨"X", "x"⟩, ⟨"X", "x "⟩] ∧ ¬ (m.constants.map Constant.ident).Nodup := by
  intro renamed item
  have hok : (deriveModel item).toBool = true := by decide +kernel
  obtain ⟨tokens, htokens⟩ := exists_eq_ok_of_toBool hok
  obtain ⟨m, hm, rfl⟩ := map_eq_ok_iff.1 htokens
  have hread := read?_of_ofItem hm
  obtain ⟨fields, hfields, -, -, rfl⟩ := ofItem_eq_ok_iff.1 hm
  obtain rfl := Data.record.inj hfields
  have hconstants : (seenOf [⟨[], "x", code "String"⟩, ⟨[renamed], "y", code "String"⟩]).map
      constantOf = [⟨"X", "x"⟩, ⟨"X", "x "⟩] := by
    decide +kernel
  refine ⟨_, _, htokens, hread, hconstants, ?_⟩
  rw [seenParts, hconstants]
  decide

end GeneratedModel

end Derive

end Criteria
