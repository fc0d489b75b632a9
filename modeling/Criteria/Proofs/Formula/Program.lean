import Criteria.Formula.Program
import Criteria.Proofs.Formula.Outline

/-!
# Interpretation mirrors the formula

The calls that an interpretation makes are the leaves and the connectives of the formula in postfix
order (`Formula.calls`): an interpreter that also writes its calls down writes down just these
(`Formula.interpret_recorded`), each on the outputs that its operands gave, which a stack keeps
(`Interpreter.Performs`).  Without their outputs the calls are the formula's program
(`Formula.program_eq_ofCalls`), and running the program gives the formula back
(`Formula.foldlM_execute_ofCalls`).
-/

namespace Criteria

/-- A call of an interpreter, with what it was given and what came of it. -/
inductive Call (α : Type) where
  | leaf (atom : Atom) (output : α)
  | join (logic : Logic) (left right output : α)
deriving DecidableEq, Repr

/-- The leaf that a call is about. -/
def Call.atom? {α : Type} : Call α → Option Atom
  | leaf a _ => some a
  | join .. => none

namespace Interpreter

variable {σ α : Type}

/-- What to make of a connective between two outputs. -/
def join (t : Interpreter σ α) : Logic → α → α → StateM σ α
  | .and => t.and
  | .or => t.or

/-- The action that also writes a call down, last. -/
def record (call : α → Call α) (action : StateM σ α) : StateM (σ × List (Call α)) α :=
  fun state =>
    let result := action state.1
    (result.1, result.2, state.2 ++ [call result.1])

/-- The interpreter that also writes its calls down. -/
def recorded (t : Interpreter σ α) : Interpreter (σ × List (Call α)) α where
  leaf a := record (.leaf a) (t.leaf a)
  and x y := record (.join .and x y) (t.and x y)
  or x y := record (.join .or x y) (t.or x y)

theorem run_record (call : α → Call α) (action : StateM σ α) (s : σ) (log : List (Call α)) :
    (record call action).run (s, log) =
      ((action.run s).1, (action.run s).2, log ++ [call (action.run s).1]) := rfl

theorem recorded_join (t : Interpreter σ α) (logic : Logic) (x y : α) :
    t.recorded.join logic x y = record (.join logic x y) (t.join logic x y) := by
  cases logic <;> rfl

/-- Calls made one after another from a state and a stack of outputs, the top first: a leaf pushes
its output, a connective takes its right operand and then its left one off and pushes what came of
them. -/
inductive Performs (t : Interpreter σ α) : σ → List α → List (Call α) → σ → List α → Prop
  | nil (s : σ) (stack : List α) : Performs t s stack [] s stack
  | leaf {a : Atom} {x : α} {s s₁ s₂ : σ} {stack stack' : List α} {calls : List (Call α)}
      (hcall : (t.leaf a).run s = (x, s₁)) (hrest : Performs t s₁ (x :: stack) calls s₂ stack') :
      Performs t s stack (.leaf a x :: calls) s₂ stack'
  | join {logic : Logic} {x y z : α} {s s₁ s₂ : σ} {stack stack' : List α} {calls : List (Call α)}
      (hcall : (t.join logic x y).run s = (z, s₁))
      (hrest : Performs t s₁ (z :: stack) calls s₂ stack') :
      Performs t s (y :: x :: stack) (.join logic x y z :: calls) s₂ stack'

theorem Performs.append {t : Interpreter σ α} {s s₁ s₂ : σ} {stack stack₁ stack₂ : List α}
    {calls more : List (Call α)} (h : t.Performs s stack calls s₁ stack₁)
    (hmore : t.Performs s₁ stack₁ more s₂ stack₂) :
    t.Performs s stack (calls ++ more) s₂ stack₂ := by
  induction h with
  | nil s stack => exact hmore
  | leaf hcall _ ih => exact .leaf hcall (ih hmore)
  | join hcall _ ih => exact .join hcall (ih hmore)

/-- Tests the leaves on a record; a state is left as it is. -/
def tester (r : Record) : Interpreter σ Bool where
  leaf a := pure (a.accepts r)
  and x y := pure (x && y)
  or x y := pure (x || y)

end Interpreter

/-! ## Instructions -/

namespace Instruction

/-- The leaf that an instruction pushes, with its number. -/
def leaf? : Instruction → Option (Atom × Nat)
  | leaf number a => some (a, number)
  | join _ => none

/-- The instructions of calls, for leaves numbered from after `n`. -/
def ofCalls {α : Type} (n : Nat) : List (Call α) → List Instruction
  | [] => []
  | .leaf a _ :: calls => leaf (n + 1) a :: ofCalls (n + 1) calls
  | .join logic _ _ _ :: calls => join logic :: ofCalls n calls

theorem ofCalls_append {α : Type} (n : Nat) (calls more : List (Call α)) :
    ofCalls n (calls ++ more) =
      ofCalls n calls ++ ofCalls (n + (calls.filterMap Call.atom?).length) more := by
  induction calls generalizing n with
  | nil => rfl
  | cons call calls ih =>
    cases call with
    | leaf a x =>
      simp only [List.cons_append, ofCalls, ih, List.filterMap_cons, Call.atom?, List.length_cons]
      rw [Nat.add_assoc, Nat.add_comm 1]
    | join logic x y z =>
      simp only [List.cons_append, ofCalls, ih, List.filterMap_cons, Call.atom?]

/-- Leaves are numbered in the order of their calls. -/
theorem filterMap_leaf?_ofCalls {α : Type} (n : Nat) (calls : List (Call α)) :
    (ofCalls n calls).filterMap leaf? = (calls.filterMap Call.atom?).zipIdx (n + 1) := by
  induction calls generalizing n with
  | nil => rfl
  | cons call calls ih =>
    cases call with
    | leaf a x =>
      simp only [ofCalls, List.filterMap_cons, leaf?, Call.atom?, List.zipIdx_cons, ih]
    | join logic x y z => simp only [ofCalls, List.filterMap_cons, leaf?, Call.atom?, ih]

end Instruction

namespace Formula

section Calls

variable {σ α : Type} (t : Interpreter σ α)

/-- What comes of interpreting a formula from a state. -/
def output (t : Interpreter σ α) (f : Formula) (s : σ) : α :=
  ((f.interpret t).run s).1

/-- The state that interpreting a formula leaves. -/
def after (t : Interpreter σ α) (f : Formula) (s : σ) : σ :=
  ((f.interpret t).run s).2

/-- The calls that an interpretation makes, in order: those for the left operand, those for the
right one, and then the one for the connective on what they gave. -/
def calls (t : Interpreter σ α) : Formula → σ → List (Call α)
  | leaf a, s => [.leaf a ((leaf a).output t s)]
  | and left right, s =>
    left.calls t s ++ right.calls t (left.after t s) ++
      [.join .and (left.output t s) (right.output t (left.after t s)) ((and left right).output t s)]
  | or left right, s =>
    left.calls t s ++ right.calls t (left.after t s) ++
      [.join .or (left.output t s) (right.output t (left.after t s)) ((or left right).output t s)]

theorem run_interpret_join (logic : Logic) (left right : Formula) (s : σ) :
    ((join logic left right).interpret t).run s =
      (t.join logic ((left.interpret t).run s).1
        ((right.interpret t).run ((left.interpret t).run s).2).1).run
        ((right.interpret t).run ((left.interpret t).run s).2).2 := by
  cases logic <;> rfl

/-- The connective is called last, on what its operands gave. -/
theorem run_join (logic : Logic) (left right : Formula) (s : σ) :
    (t.join logic (left.output t s) (right.output t (left.after t s))).run
        (right.after t (left.after t s)) =
      ((join logic left right).output t s, (join logic left right).after t s) :=
  (run_interpret_join t logic left right s).symm

theorem calls_join (logic : Logic) (left right : Formula) (s : σ) :
    (join logic left right).calls t s =
      left.calls t s ++ right.calls t (left.after t s) ++
        [.join logic (left.output t s) (right.output t (left.after t s))
          ((join logic left right).output t s)] := by
  cases logic <;> rfl

/-- Writing the calls down changes nothing else, and these are the calls written down. -/
theorem interpret_recorded (f : Formula) (s : σ) (log : List (Call α)) :
    (f.interpret t.recorded).run (s, log) =
      (f.output t s, f.after t s, log ++ f.calls t s) := by
  induction f using join_induction generalizing s log with
  | leaf a => rfl
  | join logic left right ihl ihr =>
    rw [run_interpret_join, ihl, ihr, Interpreter.recorded_join, Interpreter.run_record, run_join,
      calls_join]
    simp only [List.append_assoc]

theorem filterMap_atom?_calls (f : Formula) (s : σ) :
    (f.calls t s).filterMap Call.atom? = f.leaves := by
  induction f using join_induction generalizing s with
  | leaf a => rfl
  | join logic left right ihl ihr =>
    rw [calls_join, List.filterMap_append, List.filterMap_append, ihl, ihr, leaves_join]
    exact List.append_nil _

/-- The calls of a formula leave its output on top of the stack, and what was there below it. -/
theorem performs_calls (f : Formula) (s : σ) (stack : List α) :
    t.Performs s stack (f.calls t s) (f.after t s) (f.output t s :: stack) := by
  induction f using join_induction generalizing s stack with
  | leaf a => exact .leaf rfl (.nil _ _)
  | join logic left right ihl ihr =>
    rw [calls_join]
    exact ((ihl s stack).append (ihr _ _)).append (.join (run_join t logic left right s) (.nil _ _))

/-- Running the instructions of a formula's calls pushes the formula, whatever the interpreter. -/
theorem foldlM_execute_ofCalls (f : Formula) (s : σ) (n : Nat) (stack : List Formula) :
    (Instruction.ofCalls n (f.calls t s)).foldlM execute stack = some (f :: stack) := by
  induction f using join_induction generalizing s n stack with
  | leaf a => rfl
  | join logic left right ihl ihr =>
    rw [calls_join, Instruction.ofCalls_append, Instruction.ofCalls_append, List.foldlM_append,
      List.foldlM_append, ihl]
    simp only [Option.bind_eq_bind, Option.bind_some, ihr]
    rfl

/-- The program of a formula is made of the calls of any interpretation. -/
theorem run_interpret_programmer (f : Formula) (s : σ) (n : Nat) :
    (f.interpret programmer).run n =
      (Instruction.ofCalls n (f.calls t s), n + f.leaves.length) := by
  induction f using join_induction generalizing s n with
  | leaf a => rfl
  | join logic left right ihl ihr =>
    rw [run_interpret_join, ihl s, ihr (left.after t s), calls_join,
      Instruction.ofCalls_append, Instruction.ofCalls_append, List.filterMap_append,
      filterMap_atom?_calls, filterMap_atom?_calls, leaves_join, List.length_append,
      ← Nat.add_assoc]
    cases logic <;> rfl

theorem program_eq_ofCalls (f : Formula) (s : σ) :
    f.program = Instruction.ofCalls 0 (f.calls t s) :=
  congrArg Prod.fst (run_interpret_programmer t f s 0)

end Calls

theorem run_interpret_tester {σ : Type} (r : Record) (f : Formula) (s : σ) :
    (f.interpret (Interpreter.tester r)).run s = (f.accepts r, s) := by
  induction f using join_induction generalizing s with
  | leaf a => rfl
  | join logic left right ihl ihr =>
    rw [run_interpret_join, ihl, ihr]
    cases logic <;> rfl

/-- **Interpretation mirrors the formula.**  Whatever the interpreter and its state, it is called
once for each leaf, from left to right, and once for each connective, on the outputs of its two
operands.  As a program on a stack the calls never lack an operand and give the formula back, with
its leaves numbered from one in their order.  Testing the leaves on a record and joining the truth
values tells whether the record satisfies the formula. -/
theorem interpret_mirrors (f : Formula) :
    (∀ {σ α : Type} (t : Interpreter σ α) (s : σ),
      (∀ log, (f.interpret t.recorded).run (s, log) =
        (f.output t s, f.after t s, log ++ f.calls t s)) ∧
      (f.calls t s).filterMap Call.atom? = f.leaves ∧
      t.Performs s [] (f.calls t s) (f.after t s) [f.output t s] ∧
      Instruction.ofCalls 0 (f.calls t s) = f.program) ∧
    f.program.foldlM execute [] = some [f] ∧
    ofProgram? f.program = some f ∧
    f.program.filterMap Instruction.leaf? = f.leaves.zipIdx 1 ∧
    ∀ {σ : Type} (r : Record) (s : σ),
      (f.interpret (Interpreter.tester r)).run s = (f.accepts r, s) := by
  have hprogram := program_eq_ofCalls (Interpreter.tester fun _ => .none) f ()
  have hrun : f.program.foldlM execute [] = some [f] := by
    rw [hprogram]
    exact foldlM_execute_ofCalls _ f () 0 []
  refine ⟨fun t s => ⟨interpret_recorded t f s, filterMap_atom?_calls t f s,
    performs_calls t f s [], (program_eq_ofCalls t f s).symm⟩, hrun, ?_, ?_,
    fun r s => run_interpret_tester r f s⟩
  · simp only [ofProgram?, hrun]
  · rw [hprogram, Instruction.filterMap_leaf?_ofCalls, filterMap_atom?_calls]

-- A disjunction to the right of a conjunction: its connective comes before the outer one.
example :
    let a : Formula := .leaf ⟨"a", .equalTo "1" .sensitive⟩
    let b : Formula := .leaf ⟨"b", .equalTo "2" .sensitive⟩
    let c : Formula := .leaf ⟨"c", .equalTo "3" .sensitive⟩
    (and a (or b c)).program =
      [.leaf 1 ⟨"a", .equalTo "1" .sensitive⟩, .leaf 2 ⟨"b", .equalTo "2" .sensitive⟩,
        .leaf 3 ⟨"c", .equalTo "3" .sensitive⟩, .join .or, .join .and] := by
  rfl

end Formula

end Criteria
