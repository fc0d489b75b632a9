import Criteria.Formula

/-!
# Outlines

The outline of a formula is the tree in which a connective joins any number of parts: operands
of a connective that are joined by the same connective are brought up to it, in their order, and
nothing else is changed.  A formula and its outline accept the same records
(`Formula.accepts_outline`) and are written in the same way (`Formula.text_outline`).
-/

namespace Criteria

/-- A combination of tests in which each connective joins any number of parts. -/
inductive Outline where
  | leaf (atom : Atom)
  | node (logic : Logic) (parts : List Outline)
deriving Repr

namespace Outline

/-- The parts that an operand of a connective contributes: its own, if it is joined by the same
connective. -/
def operands (outer : Logic) : Outline → List Outline
  | leaf a => [leaf a]
  | node inner parts => if inner = outer then parts else [node inner parts]

/-- Whether parts that hold or not are enough for what joins them. -/
def joinAll : Logic → List Bool → Bool
  | .and, bs => bs.all id
  | .or, bs => bs.any id

/-- Whether a record satisfies the outline. -/
def accepts : Outline → Record → Bool
  | leaf a, r => a.accepts r
  | node logic parts, r => joinAll logic (parts.map fun p => p.accepts r)

/-- A part in words: in parentheses if a connective joins it. -/
def enclose : Outline → String → String
  | leaf _, s => s
  | node _ _, s => "(" ++ s ++ ")"

/-- What is written between two parts. -/
def between : Logic → String
  | .and => " AND "
  | .or => " OR "

/-- The outline in words. -/
def text : Outline → String
  | leaf a => a.text
  | node logic parts => (between logic).intercalate (parts.map fun p => p.enclose p.text)

theorem operands_node_self (logic : Logic) (parts : List Outline) :
    (node logic parts).operands logic = parts := by
  simp [operands]

theorem operands_node_of_ne {inner outer : Logic} (h : inner ≠ outer) (parts : List Outline) :
    (node inner parts).operands outer = [node inner parts] := by
  simp [operands, h]

theorem joinAll_singleton (logic : Logic) (b : Bool) : joinAll logic [b] = b := by
  cases logic <;> simp [joinAll]

/-- An operand is satisfied exactly if what it contributes to its connective is. -/
theorem joinAll_operands (logic : Logic) (o : Outline) (r : Record) :
    joinAll logic ((o.operands logic).map fun p => p.accepts r) = o.accepts r := by
  cases o with
  | leaf a => exact joinAll_singleton logic _
  | node inner parts =>
    by_cases h : inner = logic
    · subst h
      rw [operands_node_self, accepts]
    · rw [operands_node_of_ne h]
      exact joinAll_singleton logic _

end Outline

namespace Formula

/-- The formula with nested operands of one connective brought together. -/
def outline : Formula → Outline
  | leaf a => .leaf a
  | and left right => .node .and (left.outline.operands .and ++ right.outline.operands .and)
  | or left right => .node .or (left.outline.operands .or ++ right.outline.operands .or)

theorem outline_join (logic : Logic) (left right : Formula) :
    (join logic left right).outline
      = .node logic (left.outline.operands logic ++ right.outline.operands logic) := by
  cases logic <;> rfl

/-- A formula is a leaf or two formulas joined. -/
@[elab_as_elim]
theorem join_induction {motive : Formula → Prop} (leaf : ∀ a, motive (.leaf a))
    (join : ∀ logic left right, motive left → motive right → motive (join logic left right))
    (f : Formula) : motive f := by
  induction f with
  | leaf a => exact leaf a
  | and left right ihl ihr => exact join .and left right ihl ihr
  | or left right ihl ihr => exact join .or left right ihl ihr

theorem leaves_join (logic : Logic) (left right : Formula) :
    (join logic left right).leaves = left.leaves ++ right.leaves := by
  cases logic <;> rfl

/-! ## Meaning -/

/-- Bringing operands together changes nothing for any record. -/
theorem accepts_outline (f : Formula) (r : Record) : f.outline.accepts r = f.accepts r := by
  induction f using join_induction with
  | leaf a => rw [outline, Outline.accepts, accepts]
  | join logic left right ihl ihr =>
    rw [outline_join, Outline.accepts, List.map_append]
    have happend : ∀ bs cs : List Bool, Outline.joinAll logic (bs ++ cs)
        = Outline.joinAll logic [Outline.joinAll logic bs, Outline.joinAll logic cs] := by
      intro bs cs
      cases logic <;> simp [Outline.joinAll]
    rw [happend, Outline.joinAll_operands, Outline.joinAll_operands, ihl, ihr]
    cases logic <;> simp [Outline.joinAll, join, accepts]

/-! ## Written form -/

theorem connective?_join (logic : Logic) (left right : Formula) :
    (join logic left right).connective? = some logic := by
  cases logic <;> rfl

theorem text_join (logic : Logic) (left right : Formula) :
    (join logic left right).text = enclose logic left.connective? left.text
      ++ Outline.between logic ++ enclose logic right.connective? right.text := by
  cases logic <;> rfl

/-- The parts that an operand contributes are written as the operand is. -/
theorem intercalate_operands {f : Formula} (logic : Logic) (h : f.outline.text = f.text) :
    (Outline.between logic).intercalate
        ((f.outline.operands logic).map fun p => p.enclose p.text)
      = enclose logic f.connective? f.text := by
  induction f using join_induction with
  | leaf a =>
    simp [outline, Outline.operands, Outline.enclose, Outline.text, enclose, connective?, text]
  | join inner left right _ _ =>
    rw [connective?_join]
    rw [outline_join] at h ⊢
    by_cases hlogic : inner = logic
    · subst hlogic
      rw [Outline.operands_node_self, enclose, if_pos (.inr rfl), ← h, Outline.text]
    · rw [Outline.operands_node_of_ne hlogic, List.map_singleton, String.intercalate_singleton, h]
      simp [Outline.enclose, enclose, hlogic]

theorem operands_ne_nil (logic : Logic) (f : Formula) : f.outline.operands logic ≠ [] := by
  induction f using join_induction with
  | leaf a => simp [outline, Outline.operands]
  | join inner left right ihl ihr =>
    rw [outline_join]
    by_cases hlogic : inner = logic
    · subst hlogic
      rw [Outline.operands_node_self]
      exact List.append_ne_nil_of_left_ne_nil ihl _
    · rw [Outline.operands_node_of_ne hlogic]
      exact List.cons_ne_nil _ _

/-- Bringing operands together changes nothing in the written form. -/
theorem text_outline (f : Formula) : f.outline.text = f.text := by
  induction f using join_induction with
  | leaf a => rw [outline, Outline.text, text]
  | join logic left right ihl ihr =>
    rw [outline_join, Outline.text, List.map_append, String.intercalate_append_of_ne_nil,
      intercalate_operands logic ihl, intercalate_operands logic ihr, text_join]
    · simpa using operands_ne_nil logic left
    · simpa using operands_ne_nil logic right

end Formula

end Criteria
