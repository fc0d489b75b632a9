import Criteria.Proofs.Text.Quoted
import Criteria.Proofs.Timestamp
import Criteria.Test

/-!
# Tests read back

The written form of a test is a word, a space and what the test compares with (`text_toList`).
The word and the operand together determine the test but for its mark of a null, which is written
after the name of the field; there the name ends, since it holds neither a space nor a question
mark (`Atom.separates_text`).
-/

namespace Criteria

namespace Test

/-! ## Words and operands -/

/-- What a test compares with. -/
inductive Operand where
  | text (value : String)
  | list (values : List String)
  | instant (value : Timestamp)

namespace Operand

/-- The written form of an operand. -/
def chars : Operand → List Char
  | text value => (Text.quote value).toList
  | list values => (Text.quoteList values).toList
  | instant value => value.chars

/-- A text begins with a quote, a list with a bracket, an instant with neither. -/
theorem separates_chars (a b : Operand) : Text.Separates chars a b := by
  intro s t h
  cases a with
  | text v =>
    obtain ⟨body, hv⟩ := Text.exists_quote_eq_cons v
    cases b with
    | text w =>
      obtain ⟨rfl, hst⟩ := Text.separates_quote v w h
      exact ⟨rfl, hst⟩
    | list ws =>
      simp only [chars, hv, Text.quoteList_toList] at h
      exact absurd (List.cons.inj h).1 (by decide)
    | instant w =>
      simp only [chars, hv, List.cons_append] at h
      exact absurd h.symm (w.chars_append_ne_cons rfl (by decide) (by decide) _ _)
  | list vs =>
    cases b with
    | text w =>
      obtain ⟨body, hw⟩ := Text.exists_quote_eq_cons w
      simp only [chars, hw, Text.quoteList_toList] at h
      exact absurd (List.cons.inj h).1 (by decide)
    | list ws =>
      obtain ⟨rfl, hst⟩ := Text.separates_quoteList vs ws h
      exact ⟨rfl, hst⟩
    | instant w =>
      simp only [chars, Text.quoteList_toList, List.cons_append] at h
      exact absurd h.symm (w.chars_append_ne_cons rfl (by decide) (by decide) _ _)
  | instant v =>
    cases b with
    | text w =>
      obtain ⟨body, hw⟩ := Text.exists_quote_eq_cons w
      simp only [chars, hw, List.cons_append] at h
      exact absurd h (v.chars_append_ne_cons rfl (by decide) (by decide) _ _)
    | list ws =>
      simp only [chars, Text.quoteList_toList, List.cons_append] at h
      exact absurd h (v.chars_append_ne_cons rfl (by decide) (by decide) _ _)
    | instant w =>
      obtain ⟨rfl, hst⟩ := Timestamp.separates_chars v w h
      exact ⟨rfl, hst⟩

end Operand

/-- What a test compares a cell with. -/
def operand : Test → Operand
  | textEquals value _ | textContains value _ => .text value
  | oneOf values _ | overlaps values _ => .list values
  | date _ value _ => .instant value

/-- The word or sign that a test is written with. -/
def word : Test → String
  | textEquals _ case => caseMark case ++ "=="
  | textContains _ case => caseMark case ++ "contains"
  | oneOf _ case => caseMark case ++ "in"
  | overlaps _ case => caseMark case ++ "overlaps"
  | date op _ _ => op.flipped.symbol

/-- The mark of a test that may meet a null. -/
def nullMark : Test → List Char
  | date _ _ true => ['?']
  | _ => []

theorem nullMark_eq (a : Test) : a.nullMark = [] ∨ a.nullMark = ['?'] := by
  unfold nullMark
  split
  · exact .inr rfl
  · exact .inl rfl

/-- Neither the mark nor the space after it can stand in the name of a field. -/
theorem exists_nullMark_append (a : Test) (s : List Char) :
    ∃ x rest, a.nullMark ++ ' ' :: s = x :: rest ∧ (x = ' ' ∨ x = '?') := by
  rcases a.nullMark_eq with ha | ha <;> rw [ha]
  · exact ⟨_, _, rfl, .inl rfl⟩
  · exact ⟨_, _, rfl, .inr rfl⟩

theorem nullMark_append_inj {a b : Test} {s t : List Char}
    (h : a.nullMark ++ ' ' :: s = b.nullMark ++ ' ' :: t) : a.nullMark = b.nullMark ∧ s = t := by
  rcases a.nullMark_eq with ha | ha <;> rcases b.nullMark_eq with hb | hb <;> rw [ha, hb] at h ⊢
  · exact ⟨rfl, (List.cons.inj h).2⟩
  · exact absurd (List.cons.inj h).1 (by decide)
  · exact absurd (List.cons.inj h).1 (by decide)
  · exact ⟨rfl, (List.cons.inj (List.cons.inj h).2).2⟩

theorem text_toList (a : Test) : a.text.toList = a.word.toList ++ ' ' :: a.operand.chars := by
  cases a <;> simp [text, word, operand, Operand.chars, Timestamp.text]

theorem ne_space_of_mem_word {a : Test} {c : Char} (hc : c ∈ a.word.toList) : c ≠ ' ' := by
  rintro rfl
  cases a with
  | textEquals _ case => cases case <;> simp [word, caseMark] at hc
  | textContains _ case => cases case <;> simp [word, caseMark] at hc
  | oneOf _ case => cases case <;> simp [word, caseMark] at hc
  | overlaps _ case => cases case <;> simp [word, caseMark] at hc
  | date op _ _ => cases op <;> simp [word, DateOp.flipped, DateOp.symbol] at hc

theorem caseMark_append_inj {c d : Case} {s : String} (h : caseMark c ++ s = caseMark d ++ s) :
    c = d := by
  have hmark : (caseMark c).toList = (caseMark d).toList := by
    have hlist := congrArg String.toList h
    rw [String.toList_append, String.toList_append] at hlist
    exact List.append_cancel_right hlist
  cases c <;> cases d <;> simp [caseMark] at hmark ⊢

/-- The sign for equality is also that of a date, which is told by its operand. -/
theorem eq_of_word_operand {a b : Test} (hword : a.word = b.word)
    (hoperand : a.operand = b.operand) (hnull : a.nullMark = b.nullMark) : a = b := by
  cases a with
  | textEquals v c =>
    cases b with
    | textEquals w d =>
      cases hoperand
      rw [caseMark_append_inj hword]
    | textContains w d => cases c <;> cases d <;> simp [word, caseMark] at hword
    | oneOf | overlaps | date => cases hoperand
  | textContains v c =>
    cases b with
    | textContains w d =>
      cases hoperand
      rw [caseMark_append_inj hword]
    | textEquals w d => cases c <;> cases d <;> simp [word, caseMark] at hword
    | oneOf | overlaps | date => cases hoperand
  | oneOf vs c =>
    cases b with
    | oneOf ws d =>
      cases hoperand
      rw [caseMark_append_inj hword]
    | overlaps ws d => cases c <;> cases d <;> simp [word, caseMark] at hword
    | textEquals | textContains | date => cases hoperand
  | overlaps vs c =>
    cases b with
    | overlaps ws d =>
      cases hoperand
      rw [caseMark_append_inj hword]
    | oneOf ws d => cases c <;> cases d <;> simp [word, caseMark] at hword
    | textEquals | textContains | date => cases hoperand
  | date op v m =>
    cases b with
    | date op' w n =>
      cases hoperand
      have hop : op = op' := by
        cases op <;> cases op' <;> simp_all [word, DateOp.flipped, DateOp.symbol]
      have hmark : m = n := by
        cases m <;> cases n <;> simp_all [nullMark]
      rw [hop, hmark]
    | textEquals | textContains | oneOf | overlaps => cases hoperand

/-- A test is determined by its written form and its mark. -/
theorem text_append_inj {a b : Test} (hnull : a.nullMark = b.nullMark) {s t : List Char}
    (h : a.text.toList ++ s = b.text.toList ++ t) : a = b ∧ s = t := by
  simp only [text_toList, List.append_assoc, List.cons_append] at h
  obtain ⟨hword, -, hrest⟩ := Text.append_stop_inj (p := fun c => c != ' ')
    (fun c hc => by simpa using ne_space_of_mem_word hc)
    (fun c hc => by simpa using ne_space_of_mem_word hc) (by decide) (by decide) h
  obtain ⟨hoperand, hst⟩ := Operand.separates_chars a.operand b.operand hrest
  exact ⟨eq_of_word_operand (String.toList_inj.1 hword) hoperand hnull, hst⟩

end Test

namespace Atom

/-! ## Tests with their fields -/

/-- The name of the field holds no character that could be taken for what is written around
it. -/
def Plain (a : Atom) : Prop :=
  ∀ c ∈ a.field.toList, c ≠ ' ' ∧ c ≠ '(' ∧ c ≠ '?'

instance (a : Atom) : Decidable a.Plain :=
  List.decidableBAll (fun c => c ≠ ' ' ∧ c ≠ '(' ∧ c ≠ '?') a.field.toList

theorem text_toList (a : Atom) :
    a.text.toList = a.field.toList ++ (a.test.nullMark ++ ' ' :: a.test.text.toList) := by
  obtain ⟨field, test⟩ := a
  cases test with
  | date op v nullable => cases nullable <;> simp [text, Test.nullMark]
  | textEquals | textContains | oneOf | overlaps => simp [text, Test.nullMark]

/-- The mark of a null or the space after it shows where the name of the field ends. -/
theorem separates_text {a b : Atom} (ha : a.Plain) (hb : b.Plain) :
    Text.Separates (fun a => a.text.toList) a b := by
  intro s t h
  have hname : ∀ {x : Atom}, x.Plain → ∀ c ∈ x.field.toList, (c != ' ' && c != '?') = true := by
    intro x hx c hc
    simp [(hx c hc).1, (hx c hc).2.2]
  have hstop : ∀ {x : Char}, x = ' ' ∨ x = '?' → (x != ' ' && x != '?') = false := by
    rintro x (rfl | rfl) <;> rfl
  obtain ⟨x, u, hu, hx⟩ := a.test.exists_nullMark_append (a.test.text.toList ++ s)
  obtain ⟨y, v, hv, hy⟩ := b.test.exists_nullMark_append (b.test.text.toList ++ t)
  simp only [text_toList, List.append_assoc, List.cons_append, hu, hv] at h
  obtain ⟨hfield, hxy, huv⟩ := Text.append_stop_inj (hname ha) (hname hb) (hstop hx) (hstop hy) h
  rw [hxy, huv, ← hv] at hu
  obtain ⟨hnull, hrest⟩ := Test.nullMark_append_inj hu
  obtain ⟨htest, hst⟩ := Test.text_append_inj hnull hrest
  refine ⟨?_, hst⟩
  obtain ⟨field, test⟩ := a
  obtain ⟨field', test'⟩ := b
  rw [mk.injEq]
  exact ⟨String.toList_inj.1 hfield, htest⟩

/-- A test with its field never begins with a parenthesis. -/
theorem text_append_ne_paren {a : Atom} (ha : a.Plain) (s t : List Char) :
    a.text.toList ++ s ≠ '(' :: t := by
  intro h
  rw [text_toList] at h
  cases hfield : a.field.toList with
  | nil =>
    rw [hfield] at h
    unfold Test.nullMark at h
    split at h <;> exact absurd (List.cons.inj h).1 (by decide)
  | cons c rest =>
    rw [hfield] at h
    exact (ha c (by rw [hfield]; exact List.mem_cons_self)).2.1 (List.cons.inj h).1

end Atom

end Criteria
