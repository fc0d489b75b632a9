import Criteria.Source.Token
import Mathlib.Data.List.Basic

/-!
# Taking tokens apart

Tokens are compared with what is in their groups.  A sequence of them is taken apart from its two
ends, at the last occurrence of a word, or into phrases that each end with the same mark; each of
these has a law that says what it makes of a sequence put together in that way.
-/

namespace Criteria.Source

namespace Token

mutual

def eqb : Token → Token → Bool
  | ident a, ident b => a == b
  | punct c joint, punct d joint' => c == d && joint == joint'
  | literal l, literal l' => l == l'
  | group d ts, group e us => d == e && eqbAll ts us
  | _, _ => false

def eqbAll : Tokens → Tokens → Bool
  | [], [] => true
  | t :: ts, u :: us => eqb t u && eqbAll ts us
  | _, _ => false

end

mutual

theorem eqb_iff (t u : Token) : t.eqb u = true ↔ t = u := by
  cases t with
  | group d ts =>
    cases u with
    | group e us => simp [eqb, eqbAll_iff ts us]
    | _ => simp [eqb]
  | _ => cases u <;> simp [eqb]

theorem eqbAll_iff (ts us : Tokens) : eqbAll ts us = true ↔ ts = us := by
  cases ts with
  | nil => cases us <;> simp [eqbAll]
  | cons t ts =>
    cases us with
    | nil => simp [eqbAll]
    | cons u us => simp [eqbAll, eqb_iff t u, eqbAll_iff ts us]

end

instance : DecidableEq Token := fun t u => decidable_of_iff _ (eqb_iff t u)

end Token

/-- What comes after a beginning. -/
def past? (beginning ts : Tokens) : Option Tokens :=
  beginning.isPrefixOf? ts

/-- What comes before an end. -/
def before? (ending ts : Tokens) : Option Tokens :=
  ending.isSuffixOf? ts

@[simp] theorem past?_append (beginning rest : Tokens) :
    past? beginning (beginning ++ rest) = some rest :=
  List.isPrefixOf?_eq_some_iff_append_eq.2 rfl

@[simp] theorem before?_append (rest ending : Tokens) :
    before? ending (rest ++ ending) = some rest :=
  List.isSuffixOf?_eq_some_iff_append_eq.2 rfl

/-- The inside of the braces after a head, and what comes after them. -/
def braced? (head ts : Tokens) : Option (Tokens × Tokens) :=
  match past? head ts with
  | some (.group .brace body :: rest) => some (body, rest)
  | _ => none

@[simp] theorem braced?_append (head body rest : Tokens) :
    braced? head (head ++ braces body :: rest) = some (body, rest) := by
  rw [braced?, past?_append]
  rfl

/-! ## The last occurrence of a word -/

/-- What stands on the two sides of the last occurrence of a word. -/
def splitLast? (word : String) : Tokens → Option (Tokens × Tokens)
  | [] => none
  | t :: rest =>
    match splitLast? word rest with
    | some (front, back) => some (t :: front, back)
    | none => if t.isIdent word then some ([], rest) else none

theorem splitLast?_eq_none {word : String} {ts : Tokens}
    (h : ts.any (Token.isIdent word) = false) : splitLast? word ts = none := by
  induction ts with
  | nil => rfl
  | cons t rest ih =>
    obtain ⟨ht, hrest⟩ := Bool.or_eq_false_iff.1 (List.any_cons ▸ h)
    simp [splitLast?, ih hrest, ht]

theorem splitLast?_append {word : String} {back : Tokens} (front : Tokens)
    (h : back.any (Token.isIdent word) = false) :
    splitLast? word (front ++ .ident word :: back) = some (front, back) := by
  induction front with
  | nil => simp [splitLast?, splitLast?_eq_none h, Token.isIdent]
  | cons t front ih => simp [splitLast?, ih]

/-! ## Phrases -/

section

variable {α : Type} (mark : Char) (read? : Tokens → Option α)

/-- What phrases say that have a mark between them. -/
def readBetween? (ts : Tokens) : Option (List α) :=
  if ts.isEmpty then some [] else (ts.splitOn (.punct mark false)).mapM read?

/-- What phrases say that each end with a mark. -/
def readEnded? (ts : Tokens) : Option (List α) :=
  let phrases := ts.splitOn (.punct mark false)
  if phrases.getLast? = some [] then phrases.dropLast.mapM read? else none

variable {mark : Char} {read? : Tokens → Option α} {phrase : α → Tokens}

theorem mapM_map_phrase (hread : ∀ x, read? (phrase x) = some x) (xs : List α) :
    (xs.map phrase).mapM read? = some xs := by
  induction xs with
  | nil => rfl
  | cons x xs ih => simp [hread, ih]

theorem readBetween?_intercalate (hmark : ∀ x, .punct mark false ∉ phrase x)
    (hread : ∀ x, read? (phrase x) = some x) (hnone : read? [] = none) (xs : List α) :
    readBetween? mark read? ([.punct mark false].intercalate (xs.map phrase)) = some xs := by
  cases xs with
  | nil => rfl
  | cons x xs =>
    have hsplit : ([Token.punct mark false].intercalate ((x :: xs).map phrase)).splitOn
        (.punct mark false) = (x :: xs).map phrase :=
      List.splitOn_intercalate _ (List.forall_mem_map.2 fun y _ => hmark y) (by simp)
    have hne : [Token.punct mark false].intercalate ((x :: xs).map phrase) ≠ [] := by
      intro hempty
      rw [hempty, List.splitOn_nil, List.map_cons] at hsplit
      have hx := hread x
      rw [← (List.cons.inj hsplit).1, hnone] at hx
      cases hx
    rw [readBetween?, if_neg (by simpa using hne), hsplit, mapM_map_phrase hread]

/-- Phrases that each end with a mark have it between them, and nothing after the last one. -/
theorem flatMap_ended (mark : Token) (phrases : List Tokens) :
    (phrases.flatMap fun p => p ++ [mark]) = [mark].intercalate (phrases ++ [[]]) := by
  induction phrases with
  | nil => rfl
  | cons p rest ih =>
    cases rest with
    | nil => simp [List.intercalate]
    | cons q rest => simpa [List.intercalate] using ih

theorem readEnded?_flatMap (hmark : ∀ x, .punct mark false ∉ phrase x)
    (hread : ∀ x, read? (phrase x) = some x) (xs : List α) :
    readEnded? mark read? (xs.flatMap fun x => phrase x ++ [.punct mark false]) = some xs := by
  have hphrases : ∀ p ∈ xs.map phrase ++ [[]], Token.punct mark false ∉ p := by
    simpa [or_imp, forall_and] using fun x _ => hmark x
  have hended := flatMap_ended (.punct mark false) (xs.map phrase)
  rw [List.flatMap_map] at hended
  rw [readEnded?, hended, List.splitOn_intercalate _ hphrases (by simp)]
  simpa using mapM_map_phrase hread xs

end

end Criteria.Source
