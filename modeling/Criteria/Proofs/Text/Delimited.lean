/-!
# Delimited texts

A written form can be told from whatever follows it if two values written with something after
each give one text only when the values are equal, and so is what follows (`Separates`).  This is
what makes a sequence of written forms readable from the left.

A form that says nowhere itself where it ends is read to its end if what follows begins outside the
class of the characters that it could go on with (`BeginsOutside`).

* `append_stop_inj`: a part that ends at the first character, or byte, outside some class.
* `intercalate_append_inj`: a sequence of parts with a separator between any two.
-/

namespace Criteria

/-- Whether a text does not begin with a character of a class. -/
def BeginsOutside (p : Char → Bool) (cs : List Char) : Prop :=
  ∀ c ∈ cs.head?, p c = false

theorem BeginsOutside.nil (p : Char → Bool) : BeginsOutside p [] := by
  intro c hc
  cases hc

theorem beginsOutside_cons_iff {p : Char → Bool} {c : Char} {cs : List Char} :
    BeginsOutside p (c :: cs) ↔ p c = false := by
  simp [BeginsOutside]

theorem BeginsOutside.mono {p q : Char → Bool} {cs : List Char} (h : BeginsOutside p cs)
    (hpq : ∀ c, p c = false → q c = false) : BeginsOutside q cs :=
  fun c hc => hpq c (h c hc)

theorem takeWhile_append_eq {p : Char → Bool} {part rest : List Char}
    (hpart : ∀ c ∈ part, p c = true) (hrest : BeginsOutside p rest) :
    (part ++ rest).takeWhile p = part := by
  rw [List.takeWhile_append_of_pos hpart]
  cases rest with
  | nil => rw [List.takeWhile_nil, List.append_nil]
  | cons c rest =>
    rw [List.takeWhile_cons_of_neg (by simp [beginsOutside_cons_iff.1 hrest]), List.append_nil]

theorem dropWhile_append_eq {p : Char → Bool} {part rest : List Char}
    (hpart : ∀ c ∈ part, p c = true) (hrest : BeginsOutside p rest) :
    (part ++ rest).dropWhile p = rest := by
  rw [List.dropWhile_append_of_pos hpart]
  cases rest with
  | nil => rfl
  | cons c rest => rw [List.dropWhile_cons_of_neg (by simp [beginsOutside_cons_iff.1 hrest])]

namespace Text

/-- The written forms of two values, each with something after it, agree only if the values do,
and then so does what follows. -/
def Separates {α : Type} (write : α → List Char) (a b : α) : Prop :=
  ∀ ⦃s t : List Char⦄, write a ++ s = write b ++ t → a = b ∧ s = t

/-- A part whose items are all of a class ends before the first item that is not. -/
theorem append_stop_inj {α : Type} {p : α → Bool} {u v s t : List α} {x y : α}
    (hu : ∀ c ∈ u, p c = true) (hv : ∀ c ∈ v, p c = true) (hx : p x = false) (hy : p y = false)
    (h : u ++ x :: s = v ++ y :: t) : u = v ∧ x = y ∧ s = t := by
  induction u generalizing v with
  | nil =>
    cases v with
    | nil =>
      obtain ⟨hxy, hst⟩ := List.cons.inj h
      exact ⟨rfl, hxy, hst⟩
    | cons d v =>
      obtain ⟨rfl, -⟩ := List.cons.inj h
      rw [hv x List.mem_cons_self] at hx
      cases hx
  | cons c u ih =>
    cases v with
    | nil =>
      obtain ⟨rfl, -⟩ := List.cons.inj h
      rw [hu c List.mem_cons_self] at hy
      cases hy
    | cons d v =>
      obtain ⟨rfl, hrest⟩ := List.cons.inj h
      obtain ⟨rfl, hxy, hst⟩ := ih (fun e he => hu e (List.mem_cons_of_mem c he))
        (fun e he => hv e (List.mem_cons_of_mem c he)) hrest
      exact ⟨rfl, hxy, hst⟩

/-- Separated parts can be read back one by one, if what follows does not begin like another
part. -/
theorem intercalate_append_inj {α : Type} {write : α → List Char} {sep : List Char}
    {xs ys : List α} (hparts : ∀ a ∈ xs, ∀ b ∈ ys, Separates write a b)
    (hxs : xs ≠ []) (hys : ys ≠ []) {s t : List Char} (hs : ¬ sep <+: s) (ht : ¬ sep <+: t)
    (h : sep.intercalate (xs.map write) ++ s = sep.intercalate (ys.map write) ++ t) :
    xs = ys ∧ s = t := by
  induction xs generalizing ys with
  | nil => exact absurd rfl hxs
  | cons a xs ih =>
    obtain ⟨b, ys, rfl⟩ := List.exists_cons_of_ne_nil hys
    have hab : Separates write a b := hparts a List.mem_cons_self b List.mem_cons_self
    cases xs with
    | nil =>
      cases ys with
      | nil =>
        simp only [List.map_cons, List.map_nil, List.intercalate_singleton] at h
        obtain ⟨rfl, rfl⟩ := hab h
        exact ⟨rfl, rfl⟩
      | cons b' ys =>
        simp only [List.map_cons, List.map_nil, List.intercalate_singleton,
          List.intercalate_cons_cons, List.append_assoc] at h
        exact absurd ⟨_, (hab h).2.symm⟩ hs
    | cons a' xs =>
      cases ys with
      | nil =>
        simp only [List.map_cons, List.map_nil, List.intercalate_singleton,
          List.intercalate_cons_cons, List.append_assoc] at h
        exact absurd ⟨_, (hab h).2⟩ ht
      | cons b' ys =>
        simp only [List.map_cons, List.intercalate_cons_cons, List.append_assoc] at h
        obtain ⟨rfl, hrest⟩ := hab h
        obtain ⟨hxys, hst⟩ := ih
          (fun x hx y hy => hparts x (List.mem_cons_of_mem a hx) y (List.mem_cons_of_mem a hy))
          (List.cons_ne_nil a' xs) (List.cons_ne_nil b' ys) (by simpa using hrest)
        exact ⟨by rw [hxys], hst⟩

end Text

end Criteria
