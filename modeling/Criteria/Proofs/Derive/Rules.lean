import Criteria.Proofs.Derive.Entries
import Criteria.Proofs.Derive.Readback

/-!
# From entries to rules

The code for the rules of a row is a chain of calls.  What it comes to is read off its tokens
(`rulesOf?`), and each rule is found to be what the last entry about its word gives.

* `FilterDirective.rules_arrive`: from a list of entries through its code to the rules, each as the
  last entry about it has it.
-/

namespace Criteria.Derive

open Criteria.Source Criteria.Source.Entry

/-! ## Rules by the last entry -/

/-- What a rule comes to: what the last entry about its word gives, or the default if no entry is
about it. -/
inductive LastGives {α : Type} (es : List Entry) (key : String) (value : Entry → Option α)
    (default : α) : α → Prop
  | unnamed (h : ∀ e ∈ es, e.names key = false) : LastGives es key value default default
  | last {before after : List Entry} {e : Entry} {x : α} (hes : es = before ++ e :: after)
      (hnames : e.names key = true) (hafter : ∀ e' ∈ after, e'.names key = false)
      (hx : value e = some x) : LastGives es key value default x

theorem lastGives_bind_lastAbout {α : Type} {es : List Entry} {key : String}
    {value : Entry → Option α} (default : α)
    (hvalue : ∀ e ∈ es, e.names key = true → (value e).isSome = true) :
    LastGives es key value default (((lastAbout key es).bind value).getD default) := by
  cases hlast : lastAbout key es with
  | none => exact .unnamed (lastAbout_eq_none_iff.1 hlast)
  | some e =>
    obtain ⟨hnames, before, after, rfl, hafter⟩ := lastAbout_eq_some_iff.1 hlast
    obtain ⟨x, hx⟩ := Option.isSome_iff_exists.1 (hvalue e (by simp) hnames)
    rw [Option.bind_some, hx]
    exact .last rfl hnames hafter hx

/-- Rules that are each what the last entry about its word gives, or what they are by default. -/
structure Arrives (es : List Entry) (rules : Rules) : Prop where
  target : LastGives es "target" (fun e => e.text?.map some) none rules.target
  case : LastGives es "case" (fun e => e.text?.bind caseSpellings.find?) .sensitive rules.case
  textMatch : LastGives es "method" (fun e => e.text?.bind textMatchSpellings.find?) .equals
    rules.textMatch
  dateOp : LastGives es "op" (fun e => e.text?.bind dateOpSpellings.find?) .equality rules.dateOp
  logic : LastGives es "logic" (fun e => e.text?.bind logicSpellings.find?) .and rules.logic
  skipSynthesis : LastGives es "skip_synthesis" truth? false rules.skipSynthesis
  ignoreIfEmpty : LastGives es "ignore_if_empty" truth? true rules.ignoreIfEmpty

namespace FilterDirective

/-- The rules that a directive sets, the others as they are by default. -/
def rules (a : FilterDirective) : Rules where
  target := a.target
  case := a.case.getD .sensitive
  textMatch := a.textMatch.getD .equals
  dateOp := a.dateOp.getD .equality
  logic := a.logic.getD .and
  skipSynthesis := a.skipSynthesis
  ignoreIfEmpty := a.ignoreIfEmpty.getD true

/-- The setter of a rule that may be left alone. -/
theorem foldl_optional {α : Type} (setter : α → Setter) (rule : Rules → α)
    (set : Rules → α → Rules) (hset : ∀ r x, (setter x).apply r = set r x)
    (hsame : ∀ r, set r (rule r) = r) (choice : Option α) (r : Rules) :
    (choice.map setter).toList.foldl Setter.apply r = set r (choice.getD (rule r)) := by
  cases choice with
  | none => exact (hsame r).symm
  | some x => exact hset r x

theorem chain_setters (a : FilterDirective) : Setter.chain a.setters = a.rules := by
  have hcase := foldl_optional Setter.case Rules.case (fun r case => { r with case })
    (fun _ _ => rfl) fun _ => rfl
  have hmethod := foldl_optional Setter.textMatch Rules.textMatch
    (fun r textMatch => { r with textMatch }) (fun _ _ => rfl) fun _ => rfl
  have hop := foldl_optional Setter.dateOp Rules.dateOp (fun r dateOp => { r with dateOp })
    (fun _ _ => rfl) fun _ => rfl
  have hlogic := foldl_optional Setter.logic Rules.logic (fun r logic => { r with logic })
    (fun _ _ => rfl) fun _ => rfl
  have hignore := foldl_optional Setter.ignoreIfEmpty Rules.ignoreIfEmpty
    (fun r ignoreIfEmpty => { r with ignoreIfEmpty }) (fun _ _ => rfl) fun _ => rfl
  simp only [Setter.chain, setters, List.foldl_append, hcase, hmethod, hop, hlogic, hignore]
  cases htarget : a.target <;> cases hskip : a.skipSynthesis <;>
    simp [rules, htarget, hskip, Setter.apply]

theorem arrives_rules_given {es : List Entry} (hall : ∀ e ∈ es, Admits e) :
    Arrives es (given es).rules where
  target := by
    have htarget : (given es).rules.target =
        ((lastAbout "target" es).bind fun e => e.text?.map some).getD none := by
      cases h : lastAbout "target" es with
      | none => simp [rules, given, h]
      | some e => cases htext : e.text? <;> simp [rules, given, h, htext]
    rw [htarget]
    apply lastGives_bind_lastAbout
    intro e he hnames
    rw [Option.isSome_map]
    exact (hall e he).isSome_text? hnames
  case := lastGives_bind_lastAbout _ fun e he => (hall e he).isSome_find? .case rfl
  textMatch := lastGives_bind_lastAbout _ fun e he => (hall e he).isSome_find? .textMatch rfl
  dateOp := lastGives_bind_lastAbout _ fun e he => (hall e he).isSome_find? .dateOp rfl
  logic := lastGives_bind_lastAbout _ fun e he => (hall e he).isSome_find? .logic rfl
  skipSynthesis := lastGives_bind_lastAbout _ fun e he => (hall e he).isSome_truth? (by decide)
  ignoreIfEmpty := lastGives_bind_lastAbout _ fun e he => (hall e he).isSome_truth? (by decide)

end FilterDirective

/-! ## The order of entries -/

/-- Entries in another order, those about one word in the same. -/
structure Reordered (es es' : List Entry) : Prop where
  perm : es.Perm es'
  same : ∀ key, es.filter (names key) = es'.filter (names key)

namespace Reordered

variable {es es' : List Entry}

/-- Entries about different words stand in any order. -/
theorem of_perm (h : es.Perm es') (hkeys : es.Pairwise fun e f => e.key? ≠ f.key?) :
    Reordered es es' := by
  refine ⟨h, fun key => ?_⟩
  have hperm := h.filter (names key)
  have hapart := hkeys.filter (names key)
  cases hfound : es.filter (names key) with
  | nil =>
    rw [hfound] at hperm
    exact hperm.nil_eq
  | cons e rest =>
    cases rest with
    | nil =>
      rw [hfound] at hperm
      exact hperm.symm.eq_singleton.symm
    | cons f rest =>
      have hmem : ∀ x ∈ e :: f :: rest, x.key? = some key := by
        intro x hx
        rw [← hfound] at hx
        exact beq_iff_eq.1 (List.mem_filter.1 hx).2
      rw [hfound] at hapart
      have hne := (List.pairwise_cons.1 hapart).1 f List.mem_cons_self
      exact absurd ((hmem e (by simp)).trans (hmem f (by simp)).symm) hne

theorem given_eq (h : Reordered es es') :
    FilterDirective.given es = FilterDirective.given es' := by
  have hlast : ∀ key, lastAbout key es = lastAbout key es' := fun key => by
    rw [lastAbout, lastAbout, h.same]
  simp only [FilterDirective.given, hlast, h.perm.any_eq]

theorem ofEntries_eq_ok (h : Reordered es es') {a : FilterDirective}
    (ha : FilterDirective.ofEntries es = .ok a) : FilterDirective.ofEntries es' = .ok a := by
  rw [FilterDirective.ofEntries_eq_ok_iff, h.given_eq] at ha
  obtain ⟨hall, hexclusive, rfl⟩ := ha
  refine FilterDirective.ofEntries_eq_ok_iff.2 ⟨fun e he => ?_, hexclusive, rfl⟩
  exact hall e (h.perm.mem_iff.2 he)

end Reordered

namespace FilterDirective

/-- **Rules arrive in the table as they are written.**  Evaluated call by call, the code for an
accepted list of entries gives each rule as the last entry about its word gives it, and every other
rule as it is by default.  Only the order of entries about one word counts; entries about different
words may stand in any. -/
theorem rules_arrive {es : List Entry} {a : FilterDirective} (h : ofEntries es = .ok a) :
    ∃ rules, rulesOf? (setterTokens a.setters) = some rules ∧ Arrives es rules ∧
      (∀ es', Reordered es es' → ofEntries es' = .ok a) ∧
      ∀ es', es.Perm es' → (es.Pairwise fun e f => e.key? ≠ f.key?) → ofEntries es' = .ok a := by
  obtain ⟨hall, -, rfl⟩ := ofEntries_eq_ok_iff.1 h
  refine ⟨(given es).rules, ?_, arrives_rules_given hall, fun es' hes' => hes'.ofEntries_eq_ok h,
    fun es' hperm hkeys => (Reordered.of_perm hperm hkeys).ofEntries_eq_ok h⟩
  rw [rulesOf?_setterTokens, chain_setters]

/-- A rule that is taken back, and one that changes places with it. -/
theorem rules_arrive_rule_taken_back :
    let target : Entry := .nameValue ⟨false, ["target"]⟩ (.text "due")
    let logic : Entry := .nameValue ⟨false, ["logic"]⟩ (.text "||")
    let skip : Path := ⟨false, ["skip_synthesis"]⟩
    let es := [target, .path skip, logic, .nameValue skip (.bool false)]
    ∃ a, ofEntries es = .ok a ∧
      (∃ rules : Rules, rules = { target := some "due", logic := .or } ∧
        rulesOf? (setterTokens a.setters) = some rules ∧ Arrives es rules) ∧
      ofEntries [target, logic, .path skip, .nameValue skip (.bool false)] = .ok a := by
  intro target logic skip es
  have hes : ofEntries es = .ok { target := some "due", logic := some .or } := rfl
  obtain ⟨rules, hrules, harrives, hreordered, -⟩ := rules_arrive hes
  have hchain := Option.some.inj (hrules.symm.trans (rulesOf?_setterTokens _))
  refine ⟨_, hes, ⟨rules, hchain, hrules, harrives⟩, ?_⟩
  refine hreordered _ ⟨.cons _ (.swap _ _ _), fun key => ?_⟩
  by_cases hkey : key = "logic"
  · subst hkey
    rfl
  · have hnames : logic.names "logic" = true := rfl
    have hlogic : logic.names key = false := names_eq_false hnames (Ne.symm hkey)
    simp only [es, List.filter_cons, hlogic, Bool.false_eq_true, if_false]

end FilterDirective

end Criteria.Derive
