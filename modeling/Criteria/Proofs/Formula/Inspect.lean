import Criteria.Formula.Inspect
import Criteria.Proofs.Formula.Outline
import Criteria.Proofs.Text.Quoted

/-!
# The construction read back

The form that shows how a formula was put together determines the formula, whatever the names and
texts in it (`Formula.inspect_unambiguous`).  A constructor's name ends at the first blank, a
label is known from the constructor, and a value ends at the comma or the blank after it
(`EndsApart`): a keyword since it holds neither, a quoted text, a list or a number in parentheses
since it is told apart from any other by itself.  So fields are read from the left, one by one.

* `inspectFields_append_inj`: the constructor, with its fields still to be read.
* `fieldsChars_cons_inj`, `fieldsChars_pair_inj`: the fields.
* `Test.separates_inspect`, `Atom.separates_inspect`, `Formula.separates_inspectNode`: the values.
-/

namespace Criteria

/-! ## Values of fields -/

/-- Two values can be told apart in front of the comma or the blank that ends both. -/
def EndsApart {α : Type} (write : α → String) (a b : α) : Prop :=
  ∀ ⦃x : Char⦄ ⦃s t : List Char⦄, x = ',' ∨ x = ' ' →
    (write a).toList ++ x :: s = (write b).toList ++ x :: t → a = b ∧ s = t

/-- Whether a text holds neither a comma nor a blank. -/
def isWord (s : String) : Bool :=
  s.toList.all fun c => c != ',' && c != ' '

theorem append_inj_of_isWord {v w : String} (hv : isWord v = true) (hw : isWord w = true)
    {x : Char} (hx : x = ',' ∨ x = ' ') {s t : List Char}
    (h : v.toList ++ x :: s = w.toList ++ x :: t) : v = w ∧ s = t := by
  have hstop : (x != ',' && x != ' ') = false := by
    rcases hx with rfl | rfl
    · rfl
    · rfl
  obtain ⟨hvw, -, hst⟩ := Text.append_stop_inj (List.all_eq_true.1 hv) (List.all_eq_true.1 hw)
    hstop hstop h
  exact ⟨String.toList_inj.1 hvw, hst⟩

namespace EndsApart

variable {α : Type} {write : α → String} {a b : α}

theorem of_separates (h : Text.Separates (fun a => (write a).toList) a b) :
    EndsApart write a b := by
  intro x s t _ heq
  obtain ⟨hab, hst⟩ := h heq
  exact ⟨hab, (List.cons.inj hst).2⟩

theorem of_isWord (hword : ∀ a, isWord (write a) = true)
    (hinj : ∀ a b, write a = write b → a = b) : EndsApart write a b := by
  intro x s t hx heq
  obtain ⟨hab, hst⟩ := append_inj_of_isWord (hword a) (hword b) hx heq
  exact ⟨hinj a b hab, hst⟩

end EndsApart

theorem Case.endsApart_inspect (a b : Case) : EndsApart Case.inspect a b := by
  refine .of_isWord (fun a => ?_) fun a b h => ?_
  · cases a <;> rfl
  · cases a <;> cases b <;> simp_all [inspect]

theorem DateOp.endsApart_inspect (a b : DateOp) : EndsApart DateOp.inspect a b := by
  refine .of_isWord (fun a => ?_) fun a b h => ?_
  · cases a <;> rfl
  · cases a <;> cases b <;> simp_all [inspect]

theorem endsApart_boolText (a b : Bool) : EndsApart boolText a b := by
  refine .of_isWord (fun a => ?_) fun a b h => ?_
  · cases a <;> rfl
  · cases a <;> cases b <;> simp_all [boolText]

theorem Timestamp.separates_inspect (a b : Timestamp) :
    Text.Separates (fun t => t.inspect.toList) a b := by
  intro s t h
  have hdigits : intText a.nanos ++ ')' :: s = intText b.nanos ++ ')' :: t := by
    simpa [inspect] using h
  obtain ⟨hnanos, -, hst⟩ := intText_append_inj rfl rfl hdigits
  exact ⟨Timestamp.ext hnanos, hst⟩

theorem Timestamp.endsApart_inspect (a b : Timestamp) : EndsApart Timestamp.inspect a b :=
  .of_separates (a.separates_inspect b)

theorem Text.endsApart_quote (a b : String) : EndsApart quote a b :=
  .of_separates (separates_quote a b)

theorem Text.endsApart_quoteList (xs ys : List String) : EndsApart quoteList xs ys :=
  .of_separates (separates_quoteList xs ys)

/-! ## Constructors with labelled fields -/

/-- What is written between the braces. -/
def fieldsChars (fields : List (String × String)) : List Char :=
  (", ".intercalate (fields.map fun f => f.1 ++ ": " ++ f.2)).toList

theorem inspectFields_toList (name : String) (fields : List (String × String)) :
    (inspectFields name fields).toList =
      name.toList ++ ' ' :: '\x7b' :: ' ' :: (fieldsChars fields ++ [' ', '\x7d']) := by
  simp [inspectFields, fieldsChars]

theorem fieldsChars_singleton (label value : String) :
    fieldsChars [(label, value)] = label.toList ++ ':' :: ' ' :: value.toList := by
  simp [fieldsChars]

theorem fieldsChars_cons (label value : String) (f : String × String)
    (fields : List (String × String)) :
    fieldsChars ((label, value) :: f :: fields) =
      label.toList ++ ':' :: ' ' :: (value.toList ++ ',' :: ' ' :: fieldsChars (f :: fields)) := by
  simp [fieldsChars]

/-- The name of a constructor ends at the blank after it. -/
theorem inspectFields_append_inj {name name' : String} {fields fields' : List (String × String)}
    (hname : isWord name = true) (hname' : isWord name' = true) {s t : List Char}
    (h : (inspectFields name fields).toList ++ s = (inspectFields name' fields').toList ++ t) :
    name = name' ∧
      fieldsChars fields ++ ' ' :: '\x7d' :: s = fieldsChars fields' ++ ' ' :: '\x7d' :: t := by
  rw [inspectFields_toList, inspectFields_toList, List.append_assoc, List.append_assoc] at h
  obtain ⟨heq, hrest⟩ := append_inj_of_isWord hname hname' (.inr rfl) h
  exact ⟨heq, by simpa using hrest⟩

section Fields

variable {α : Type} {write : α → String} {a b : α} {label : String} {s t : List Char}

theorem fieldsChars_singleton_inj (hab : EndsApart write a b)
    (h : fieldsChars [(label, write a)] ++ ' ' :: s =
      fieldsChars [(label, write b)] ++ ' ' :: t) : a = b ∧ s = t := by
  simp only [fieldsChars_singleton, List.append_assoc, List.cons_append,
    List.append_cancel_left_eq, List.cons.injEq, true_and] at h
  exact hab (.inr rfl) h

theorem fieldsChars_cons_inj {f g : String × String} {fields fields' : List (String × String)}
    (hab : EndsApart write a b)
    (h : fieldsChars ((label, write a) :: f :: fields) ++ s =
      fieldsChars ((label, write b) :: g :: fields') ++ t) :
    a = b ∧ fieldsChars (f :: fields) ++ s = fieldsChars (g :: fields') ++ t := by
  simp only [fieldsChars_cons, List.append_assoc, List.cons_append,
    List.append_cancel_left_eq, List.cons.injEq, true_and] at h
  obtain ⟨heq, hrest⟩ := hab (.inl rfl) h
  exact ⟨heq, (List.cons.inj hrest).2⟩

theorem fieldsChars_pair_inj {β : Type} {write' : β → String} {c d : β} {label' : String}
    (hab : EndsApart write a b) (hcd : EndsApart write' c d)
    (h : fieldsChars [(label, write a), (label', write' c)] ++ ' ' :: s =
      fieldsChars [(label, write b), (label', write' d)] ++ ' ' :: t) :
    a = b ∧ c = d ∧ s = t := by
  obtain ⟨hfirst, hrest⟩ := fieldsChars_cons_inj hab h
  exact ⟨hfirst, fieldsChars_singleton_inj hcd hrest⟩

end Fields

/-! ## Tests -/

namespace Test

/-- The name of a test's constructor. -/
def constructorName : Test → String
  | textEquals _ _ => "TextEquals"
  | textContains _ _ => "TextContains"
  | oneOf _ _ => "OneOf"
  | overlaps _ _ => "Overlaps"
  | date _ _ _ => "Date"

/-- The labelled fields of a test. -/
def fields : Test → List (String × String)
  | textEquals value case | textContains value case =>
    [("value", Text.quote value), ("case", case.inspect)]
  | oneOf values case | overlaps values case =>
    [("values", Text.quoteList values), ("case", case.inspect)]
  | date op value nullable =>
    [("op", op.inspect), ("value", value.inspect), ("nullable", boolText nullable)]

theorem inspect_eq (a : Test) : a.inspect = inspectFields a.constructorName a.fields := by
  cases a <;> rfl

theorem isWord_constructorName (a : Test) : isWord a.constructorName = true := by
  cases a <;> simp [constructorName, isWord]

/-- The constructor says which fields follow, and the fields which values the test holds. -/
theorem separates_inspect (a b : Test) : Text.Separates (fun a => a.inspect.toList) a b := by
  intro s t h
  simp only [inspect_eq] at h
  obtain ⟨hname, hfields⟩ :=
    inspectFields_append_inj a.isWord_constructorName b.isWord_constructorName h
  cases a with
  | textEquals v c =>
    cases b with
    | textEquals w d =>
      simp only [fields] at hfields
      obtain ⟨rfl, rfl, hrest⟩ :=
        fieldsChars_pair_inj (Text.endsApart_quote v w) (c.endsApart_inspect d) hfields
      exact ⟨rfl, (List.cons.inj hrest).2⟩
    | textContains | oneOf | overlaps | date => simp [constructorName] at hname
  | textContains v c =>
    cases b with
    | textContains w d =>
      simp only [fields] at hfields
      obtain ⟨rfl, rfl, hrest⟩ :=
        fieldsChars_pair_inj (Text.endsApart_quote v w) (c.endsApart_inspect d) hfields
      exact ⟨rfl, (List.cons.inj hrest).2⟩
    | textEquals | oneOf | overlaps | date => simp [constructorName] at hname
  | oneOf vs c =>
    cases b with
    | oneOf ws d =>
      simp only [fields] at hfields
      obtain ⟨rfl, rfl, hrest⟩ :=
        fieldsChars_pair_inj (Text.endsApart_quoteList vs ws) (c.endsApart_inspect d) hfields
      exact ⟨rfl, (List.cons.inj hrest).2⟩
    | textEquals | textContains | overlaps | date => simp [constructorName] at hname
  | overlaps vs c =>
    cases b with
    | overlaps ws d =>
      simp only [fields] at hfields
      obtain ⟨rfl, rfl, hrest⟩ :=
        fieldsChars_pair_inj (Text.endsApart_quoteList vs ws) (c.endsApart_inspect d) hfields
      exact ⟨rfl, (List.cons.inj hrest).2⟩
    | textEquals | textContains | oneOf | date => simp [constructorName] at hname
  | date op v m =>
    cases b with
    | date op' w n =>
      simp only [fields] at hfields
      obtain ⟨rfl, hvalue⟩ := fieldsChars_cons_inj (op.endsApart_inspect op') hfields
      obtain ⟨rfl, rfl, hrest⟩ :=
        fieldsChars_pair_inj (v.endsApart_inspect w) (endsApart_boolText m n) hvalue
      exact ⟨rfl, (List.cons.inj hrest).2⟩
    | textEquals | textContains | oneOf | overlaps => simp [constructorName] at hname

theorem endsApart_inspect (a b : Test) : EndsApart inspect a b :=
  .of_separates (a.separates_inspect b)

end Test

theorem Atom.separates_inspect (a b : Atom) : Text.Separates (fun a => a.inspect.toList) a b := by
  intro s t h
  obtain ⟨field, test⟩ := a
  obtain ⟨field', test'⟩ := b
  obtain ⟨-, hfields⟩ := inspectFields_append_inj rfl rfl h
  obtain ⟨rfl, rfl, hrest⟩ :=
    fieldsChars_pair_inj (Text.endsApart_quote field field') (test.endsApart_inspect test') hfields
  exact ⟨rfl, (List.cons.inj hrest).2⟩

/-! ## Formulas -/

theorem Logic.inspect_append_paren_inj {l m : Logic} {s t : List Char}
    (h : l.inspect.toList ++ '(' :: s = m.inspect.toList ++ '(' :: t) : l = m ∧ s = t := by
  cases l <;> cases m <;> simp_all [inspect]

namespace Formula

theorem inspectNode_leaf_toList (a : Atom) :
    (leaf a).inspectNode.toList = "Field(".toList ++ (a.inspect.toList ++ [')']) := by
  simp [inspectNode]

theorem inspectNode_join_toList (logic : Logic) (left right : Formula) :
    (join logic left right).inspectNode.toList =
      logic.inspect.toList ++
        '(' :: (left.inspectNode.toList ++ ',' :: ' ' :: (right.inspectNode.toList ++ [')'])) := by
  cases logic <;> simp [join, inspectNode, Logic.inspect]

/-- No connective is written like the constructor of a leaf. -/
theorem inspectNode_leaf_append_ne_join (a : Atom) (logic : Logic) (left right : Formula)
    (s t : List Char) :
    (leaf a).inspectNode.toList ++ s ≠ (join logic left right).inspectNode.toList ++ t := by
  rw [inspectNode_leaf_toList, inspectNode_join_toList]
  cases logic <;> simp [Logic.inspect]

/-- A formula is determined by its construction, read from the root. -/
theorem separates_inspectNode (f g : Formula) :
    Text.Separates (fun f => f.inspectNode.toList) f g := by
  induction f using join_induction generalizing g with
  | leaf a =>
    intro s t h
    induction g using join_induction with
    | leaf b =>
      simp only [inspectNode_leaf_toList, List.append_assoc, List.append_cancel_left_eq] at h
      obtain ⟨rfl, hrest⟩ := a.separates_inspect b h
      exact ⟨rfl, (List.cons.inj hrest).2⟩
    | join logic left right => exact absurd h (inspectNode_leaf_append_ne_join a logic _ _ s t)
  | join logic left right ihl ihr =>
    intro s t h
    induction g using join_induction with
    | leaf b => exact absurd h.symm (inspectNode_leaf_append_ne_join b logic _ _ t s)
    | join logic' left' right' =>
      simp only [inspectNode_join_toList, List.append_assoc, List.cons_append] at h
      obtain ⟨rfl, hleft⟩ := Logic.inspect_append_paren_inj h
      obtain ⟨rfl, hcomma⟩ := ihl left' hleft
      obtain ⟨rfl, hrest⟩ := ihr right' (List.cons.inj (List.cons.inj hcomma).2).2
      exact ⟨rfl, (List.cons.inj hrest).2⟩

/-- **The construction is unambiguous.**  Formulas are shown alike exactly if they are equal,
whatever their names and texts hold. -/
theorem inspect_unambiguous (f g : Formula) : f.inspect = g.inspect ↔ f = g := by
  constructor
  · intro h
    have hchars : f.inspectNode.toList ++ [')'] = g.inspectNode.toList ++ [')'] := by
      simpa [inspect] using congrArg String.toList h
    exact (separates_inspectNode f g hchars).1
  · rintro rfl
    rfl

-- A name that holds the rest of a field does not pass for it.
example :
    (leaf ⟨"a\", test: Overlaps", .oneOf [] .sensitive⟩).inspect =
      "Predicate(Field(FieldPredicate \x7b field: \"a\\\", test: Overlaps\", " ++
        "test: OneOf \x7b values: [], case: Sensitive \x7d \x7d))" := by
  rfl

end Formula

end Criteria
