import Criteria.Proofs.Formula.Outline
import Criteria.Proofs.Test.Text

/-!
# Formulas read back

Two formulas are written alike exactly if they have one outline, and then they accept the same
records (`Formula.text_faithful`): no parenthesis that the meaning needs is left out.

The induction is on outlines whose connectives join at least two parts.  A part is determined
whatever follows it, since a connective's parts stand in parentheses; a whole outline only if what
follows does not begin with a space, since a connective and more parts would.
-/

namespace Criteria

namespace Outline

/-- Every name of a field is plain and every connective joins at least two parts. -/
inductive Legible : Outline → Prop where
  | leaf {a : Atom} (hplain : a.Plain) : Legible (leaf a)
  | node {logic : Logic} {parts : List Outline} (hlength : 2 ≤ parts.length)
      (hparts : ∀ p ∈ parts, Legible p) : Legible (node logic parts)

/-- The written form of a part, as characters. -/
def partChars (p : Outline) : List Char :=
  (p.enclose p.text).toList

/-- Two outlines are told apart where no space follows them. -/
def Distinct (x y : Outline) : Prop :=
  ∀ ⦃s t : List Char⦄, s.head? ≠ some ' ' → t.head? ≠ some ' ' →
    x.text.toList ++ s = y.text.toList ++ t → x = y ∧ s = t

/-! ## Connectives -/

theorem exists_between_eq (logic : Logic) : ∃ rest, (between logic).toList = ' ' :: rest := by
  cases logic
  · exact ⟨['A', 'N', 'D', ' '], by simp [between]⟩
  · exact ⟨['O', 'R', ' '], by simp [between]⟩

theorem not_between_isPrefix {logic : Logic} {s : List Char} (hs : s.head? ≠ some ' ') :
    ¬ (between logic).toList <+: s := by
  rintro ⟨t, rfl⟩
  obtain ⟨rest, hrest⟩ := exists_between_eq logic
  rw [hrest] at hs
  exact hs rfl

theorem eq_of_between_append_eq {logic logic' : Logic} {s t : List Char}
    (h : (between logic).toList ++ s = (between logic').toList ++ t) : logic = logic' := by
  cases logic <;> cases logic' <;> first | rfl | simp [between] at h

theorem text_node_toList (logic : Logic) (parts : List Outline) :
    (node logic parts).text.toList = (between logic).toList.intercalate (parts.map partChars) := by
  rw [text, String.toList_intercalate, List.map_map]
  rfl

/-- A connective with at least two parts is written after the first of them. -/
theorem exists_text_node_eq (logic : Logic) {parts : List Outline} (hlength : 2 ≤ parts.length) :
    ∃ p ∈ parts, ∃ rest,
      (node logic parts).text.toList = p.partChars ++ ((between logic).toList ++ rest) := by
  rcases parts with _ | ⟨p, _ | ⟨q, parts⟩⟩
  · cases hlength
  · simp at hlength
  · refine ⟨p, List.mem_cons_self,
      (between logic).toList.intercalate ((q :: parts).map partChars), ?_⟩
    rw [text_node_toList, List.map_cons, List.map_cons, List.intercalate_cons_cons,
      List.append_assoc]

/-! ## Parts -/

theorem partChars_leaf (a : Atom) : (leaf a).partChars = a.text.toList := by
  rw [partChars, enclose, text]

theorem partChars_node (logic : Logic) (parts : List Outline) :
    (node logic parts).partChars = '(' :: ((node logic parts).text.toList ++ [')']) := by
  simp [partChars, enclose]

theorem separates_partChars_leaf {a : Atom} (ha : a.Plain) {y : Outline} (hy : y.Legible) :
    Text.Separates partChars (leaf a) y := by
  intro s t h
  cases hy with
  | @leaf b hb =>
    rw [partChars_leaf, partChars_leaf] at h
    obtain ⟨rfl, hst⟩ := Atom.separates_text ha hb h
    exact ⟨rfl, hst⟩
  | node =>
    rw [partChars_leaf, partChars_node] at h
    exact absurd h (Atom.text_append_ne_paren ha _ _)

/-- Where the whole of a part can be told apart, so can the part in its parentheses. -/
theorem separates_partChars_node {logic : Logic} {parts : List Outline} {y : Outline}
    (hy : y.Legible) (h : Distinct (node logic parts) y) :
    Text.Separates partChars (node logic parts) y := by
  intro s t heq
  cases hy with
  | @leaf b hb =>
    rw [partChars_leaf, partChars_node] at heq
    exact absurd heq.symm (Atom.text_append_ne_paren hb _ _)
  | @node logic' parts' hlength hparts =>
    simp only [partChars_node, List.cons_append, List.append_assoc, List.cons.injEq,
      true_and] at heq
    obtain ⟨hxy, hst⟩ := h (by simp) (by simp) heq
    exact ⟨hxy, (List.cons.inj hst).2⟩

/-! ## Whole outlines -/

theorem distinct_leaf {a : Atom} (ha : a.Plain) {y : Outline} (hy : y.Legible) :
    Distinct (leaf a) y := by
  intro s t hs _ h
  cases hy with
  | @leaf b hb =>
    exact separates_partChars_leaf ha (.leaf hb) (by simpa [partChars_leaf, text] using h)
  | @node logic parts hlength hparts =>
    -- The first part is the leaf, so a connective follows it.
    obtain ⟨q, hq, rest, hrest⟩ := exists_text_node_eq logic hlength
    obtain ⟨space, hspace⟩ := exists_between_eq logic
    rw [hrest, hspace, text, ← partChars_leaf, List.append_assoc] at h
    obtain ⟨-, rfl⟩ := separates_partChars_leaf ha (hparts q hq) h
    exact absurd rfl hs

theorem distinct_node {logic : Logic} {parts : List Outline} (hlength : 2 ≤ parts.length)
    (hparts : ∀ p ∈ parts, ∀ q : Outline, q.Legible → Text.Separates partChars p q)
    {y : Outline} (hy : y.Legible) : Distinct (node logic parts) y := by
  intro s t hs ht h
  obtain ⟨p, hp, rest, hrest⟩ := exists_text_node_eq logic hlength
  cases hy with
  | @leaf b hb =>
    obtain ⟨space, hspace⟩ := exists_between_eq logic
    rw [hrest, hspace, text, ← partChars_leaf, List.append_assoc] at h
    obtain ⟨-, rfl⟩ := hparts p hp (leaf b) (.leaf hb) h
    exact absurd rfl ht
  | @node logic' parts' hlength' hparts' =>
    obtain ⟨q, hq, rest', hrest'⟩ := exists_text_node_eq logic' hlength'
    have hlogic : logic = logic' := by
      simp only [hrest, hrest', List.append_assoc] at h
      obtain ⟨-, hbetween⟩ := hparts p hp q (hparts' q hq) h
      exact eq_of_between_append_eq hbetween
    subst hlogic
    rw [text_node_toList, text_node_toList] at h
    obtain ⟨rfl, hst⟩ := Text.intercalate_append_inj
      (fun p hp q hq => hparts p hp q (hparts' q hq)) (List.ne_nil_of_mem hp)
      (List.ne_nil_of_mem hq) (not_between_isPrefix hs) (not_between_isPrefix ht) h
    exact ⟨rfl, hst⟩

/-- A part of an outline is determined by its written form. -/
theorem Legible.separates_partChars {x y : Outline} (hx : x.Legible) (hy : y.Legible) :
    Text.Separates partChars x y := by
  induction hx generalizing y with
  | leaf hplain => exact separates_partChars_leaf hplain hy
  | node hlength _ ih =>
    exact separates_partChars_node hy (distinct_node hlength (fun p hp q hq => ih p hp hq) hy)

/-- An outline is determined by its written form. -/
theorem Legible.eq_of_text_eq {x y : Outline} (hx : x.Legible) (hy : y.Legible)
    (h : x.text = y.text) : x = y := by
  have hdistinct : Distinct x y := by
    cases hx with
    | leaf hplain => exact distinct_leaf hplain hy
    | node hlength hparts =>
      exact distinct_node hlength (fun p hp q hq => (hparts p hp).separates_partChars hq) hy
  exact (hdistinct (s := []) (t := []) (by simp) (by simp) (by rw [h])).1

end Outline

namespace Formula

/-- Every leaf has a plain name of its field. -/
def Plain (f : Formula) : Prop :=
  ∀ a ∈ f.leaves, a.Plain

instance (f : Formula) : Decidable f.Plain :=
  List.decidableBAll Atom.Plain f.leaves

theorem legible_of_mem_operands {o : Outline} (ho : o.Legible) {logic : Logic} {p : Outline}
    (hp : p ∈ o.operands logic) : p.Legible := by
  cases ho with
  | leaf hplain =>
    rw [List.mem_singleton.1 hp]
    exact .leaf hplain
  | @node inner parts hlength hparts =>
    by_cases hlogic : inner = logic
    · subst hlogic
      rw [Outline.operands_node_self] at hp
      exact hparts p hp
    · rw [Outline.operands_node_of_ne hlogic] at hp
      rw [List.mem_singleton.1 hp]
      exact .node hlength hparts

theorem legible_outline {f : Formula} (hf : f.Plain) : f.outline.Legible := by
  induction f using join_induction with
  | leaf a => exact .leaf (hf a (List.mem_singleton_self a))
  | join logic left right ihl ihr =>
    unfold Plain at hf
    rw [leaves_join, List.forall_mem_append] at hf
    obtain ⟨hl, hr⟩ := hf
    rw [outline_join]
    refine .node ?_ fun p hp => ?_
    · have hleft := List.length_pos_iff.2 (operands_ne_nil logic left)
      have hright := List.length_pos_iff.2 (operands_ne_nil logic right)
      rw [List.length_append]
      omega
    · rcases List.mem_append.1 hp with hp | hp
      · exact legible_of_mem_operands (ihl hl) hp
      · exact legible_of_mem_operands (ihr hr) hp

/-- **The written form is faithful.**  Formulas are written alike exactly if bringing together
nested operands of one connective makes them equal, and then they accept the same records. -/
theorem text_faithful {f g : Formula} (hf : f.Plain) (hg : g.Plain) :
    (f.text = g.text ↔ f.outline = g.outline) ∧
      (f.text = g.text → ∀ r : Record, f.accepts r = g.accepts r) := by
  have houtline : f.text = g.text ↔ f.outline = g.outline := by
    constructor
    · intro h
      rw [← text_outline f, ← text_outline g] at h
      exact (legible_outline hf).eq_of_text_eq (legible_outline hg) h
    · intro h
      rw [← text_outline f, ← text_outline g, h]
  refine ⟨houtline, fun h r => ?_⟩
  rw [← accepts_outline f, ← accepts_outline g, houtline.1 h]

/-- Conjunctions nested on either side are written alike, a disjunction moved out of one is not,
also around a text that holds a connective and a quote. -/
theorem text_faithful_nested :
    let title : Formula := leaf ⟨"title", .textEquals "a\" AND b == \"" .insensitive⟩
    let labels : Formula := leaf ⟨"labels", .overlaps ["x\", ", "], "] .sensitive⟩
    let due : Formula := leaf ⟨"due", .date .lessThan ⟨-1, by decide, by decide⟩ true⟩
    ((and title (and labels (or due title))).text = (and (and title labels) (or due title)).text ∧
        ∀ r, (and title (and labels (or due title))).accepts r
          = (and (and title labels) (or due title)).accepts r) ∧
      (or (and title labels) due).text ≠ (and title (or labels due)).text := by
  intro title labels due
  have halike := text_faithful (f := and title (and labels (or due title)))
    (g := and (and title labels) (or due title)) (by decide) (by decide)
  have hapart := text_faithful (f := or (and title labels) due)
    (g := and title (or labels due)) (by decide) (by decide)
  have htext := halike.1.2 rfl
  refine ⟨⟨htext, halike.2 htext⟩, fun h => ?_⟩
  have houtline := hapart.1.1 h
  simp [outline] at houtline

end Formula

end Criteria
