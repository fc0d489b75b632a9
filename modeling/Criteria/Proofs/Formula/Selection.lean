import Criteria.Formula.Selection

/-!
# Selections agree

Each question put to a list of items has a walk of its own, and all of them come to what filtering
comes to (`Formula.selections_agree`).  Filtering itself is known from outside: it gives the
greatest of the sublists whose items all satisfy the formula (`Formula.picks_iff`), so every such
item as often as it occurs and in the order of the list.
-/

namespace Criteria

/-- Whether a list consists of exactly the items of another that have a property, repeated as there
and in the same order: it is the greatest of the sublists of such items. -/
structure Picks {α : Type} (holds : α → Prop) (xs ys : List α) : Prop where
  sublist : ys.Sublist xs
  sound : ∀ y ∈ ys, holds y
  greatest : ∀ zs : List α, zs.Sublist xs → (∀ z ∈ zs, holds z) → zs.Sublist ys

theorem Picks.unique {α : Type} {holds : α → Prop} {xs ys zs : List α} (h : Picks holds xs ys)
    (h' : Picks holds xs zs) : ys = zs :=
  (h'.greatest ys h.sublist h.sound).eq_of_length_le (h.greatest zs h'.sublist h'.sound).length_le

namespace Formula

variable {α : Type} (p q : Formula) (view : α → Record) (xs : List α)

/-! ## Filtering -/

theorem picks_filter : Picks (fun x => p.acceptsItem view x = true) xs (p.filter view xs) where
  sublist := List.filter_sublist
  sound := fun _ hx => (List.mem_filter.1 hx).2
  greatest := fun zs hzs haccepts => by
    have hkept : zs.filter (p.acceptsItem view) = zs := List.filter_eq_self.2 haccepts
    rw [← hkept]
    exact hzs.filter (p.acceptsItem view)

theorem picks_iff {ys : List α} :
    Picks (fun x => p.acceptsItem view x = true) xs ys ↔ p.filter view xs = ys := by
  constructor
  · exact fun h => (p.picks_filter view xs).unique h
  · rintro rfl
    exact p.picks_filter view xs

/-- What is removed in place: the walk has kept so far what filtering keeps of the items so far. -/
theorem retain_toArray : p.retain view xs.toArray = (p.filter view xs).toArray := by
  rw [retain, filter, List.foldl_toArray, ← List.foldl_filter, List.foldl_push_eq_append,
    List.map_id', Array.empty_append]

/-! ## Questions -/

theorem count_eq_length_filter : p.count view xs = (p.filter view xs).length :=
  List.countP_eq_length_filter

theorem any_eq_not_isEmpty_filter : p.any view xs = !(p.filter view xs).isEmpty := by
  rw [Bool.eq_iff_iff, any, filter, List.any_eq_true, Bool.not_eq_true', List.isEmpty_eq_false_iff,
    ne_eq, List.filter_eq_nil_iff]
  simp only [Classical.not_forall, Classical.not_not, exists_prop]

theorem all_iff_count_eq_length : p.all view xs = true ↔ p.count view xs = xs.length := by
  rw [all, List.all_eq_true, count, List.countP_eq_length]

theorem find?_eq_head?_filter : p.find? view xs = (p.filter view xs).head? :=
  List.head?_filter.symm

theorem position?_eq_some_iff {i : Nat} :
    p.position? view xs = some i ↔
      ∃ h : i < xs.length, p.acceptsItem view xs[i] = true ∧
        ∀ (j : Nat) (hj : j < i), p.acceptsItem view xs[j] = false := by
  simp only [position?, List.findIdx?_eq_some_iff_getElem, Bool.not_eq_true]

theorem position?_eq_none_iff : p.position? view xs = none ↔ p.any view xs = false := by
  rw [position?, List.findIdx?_eq_none_iff, any, List.any_eq_false]
  simp only [Bool.not_eq_true]

/-! ## Conjunction and disjunction -/

theorem filter_and : (p.and q).filter view xs = q.filter view (p.filter view xs) := by
  rw [filter, filter, filter, List.filter_filter]
  exact List.filter_congr fun x _ => Bool.and_comm _ _

/-- Each item is counted by a conjunction and a disjunction together as often as by their parts. -/
theorem count_and_add_count_or :
    (p.and q).count view xs + (p.or q).count view xs = p.count view xs + q.count view xs := by
  have hone : ∀ a b : Bool,
      (if (a && b) = true then 1 else 0) + (if (a || b) = true then 1 else 0) =
        (if a = true then 1 else 0) + if b = true then 1 else 0 := by decide
  induction xs with
  | nil => rfl
  | cons x xs ih =>
    have hand : (p.and q).acceptsItem view x = (p.acceptsItem view x && q.acceptsItem view x) := rfl
    have hor : (p.or q).acceptsItem view x = (p.acceptsItem view x || q.acceptsItem view x) := rfl
    have hx := hone (p.acceptsItem view x) (q.acceptsItem view x)
    unfold count at ih ⊢
    rw [List.countP_cons, List.countP_cons, List.countP_cons, List.countP_cons, hand, hor]
    omega

/-- **All selections agree with filtering**, which gives exactly the items that satisfy the formula,
in their order.  They are as many as are counted; there is one exactly if any satisfies it, and as
many as items exactly if all do; the first is the one that is found, at the first position of an
item that satisfies it.  Faithful copies of them are themselves, and they are what is left when the
others are removed.  A conjunction filters by one part and then by the other, and a conjunction and
a disjunction count together what their parts count. -/
theorem selections_agree :
    (∀ ys, Picks (fun x => p.acceptsItem view x = true) xs ys ↔ p.filter view xs = ys) ∧
      p.count view xs = (p.filter view xs).length ∧
      p.any view xs = !(p.filter view xs).isEmpty ∧
      (p.all view xs = true ↔ p.count view xs = xs.length) ∧
      p.find? view xs = (p.filter view xs).head? ∧
      (∀ i, p.position? view xs = some i ↔
        ∃ h : i < xs.length, p.acceptsItem view xs[i] = true ∧
          ∀ (j : Nat) (hj : j < i), p.acceptsItem view xs[j] = false) ∧
      (p.position? view xs = none ↔ p.any view xs = false) ∧
      (∀ copy : α → α, (∀ x, copy x = x) → p.copies view copy xs = p.filter view xs) ∧
      p.retain view xs.toArray = (p.filter view xs).toArray ∧
      (p.and q).filter view xs = q.filter view (p.filter view xs) ∧
      (p.and q).count view xs + (p.or q).count view xs = p.count view xs + q.count view xs := by
  refine ⟨fun _ => p.picks_iff view xs, p.count_eq_length_filter view xs,
    p.any_eq_not_isEmpty_filter view xs, p.all_iff_count_eq_length view xs,
    p.find?_eq_head?_filter view xs, fun _ => p.position?_eq_some_iff view xs,
    p.position?_eq_none_iff view xs, fun copy hcopy => ?_, p.retain_toArray view xs,
    p.filter_and q view xs, p.count_and_add_count_or q view xs⟩
  rw [copies, List.map_congr_left fun x _ => hcopy x, List.map_id']
  rfl

/-- A title that occurs twice after one that is rejected. -/
theorem selections_agree_repeated_title :
    let view : String → Record := fun title => Record.ofCells [("title", .text title)]
    let p : Formula := .leaf ⟨"title", .equalTo "bug" .sensitive⟩
    let titles := ["fix", "bug", "bug"]
    (∀ title : String, id title = title) ∧ p.copies view id titles = p.filter view titles ∧
      p.filter view titles = ["bug", "bug"] ∧ p.position? view titles = some 1 := by
  intro view p titles
  obtain ⟨hpicks, -, -, -, -, hposition, -, hcopies, -⟩ := selections_agree p p view titles
  refine ⟨fun _ => rfl, hcopies id fun _ => rfl, by decide, (hposition 1).2 ⟨by decide, ?_⟩⟩
  decide

end Formula

end Criteria
