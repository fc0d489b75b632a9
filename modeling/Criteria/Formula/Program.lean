import Criteria.Formula

/-!
# Programs of formulas

An interpreter makes something of leaves and connectives, carrying a state from call
to call.  A formula is interpreted from the leaves up and from left to right: the
operands of a connective come before it, the left one first.

A program is a formula written for a stack: leaves push themselves, a connective
takes two formulas off and pushes their combination.
-/

namespace Criteria

/-- What to make of leaves and connectives, with a state of type `σ`. -/
structure Interpreter (σ α : Type) where
  leaf : Atom → StateM σ α
  and : α → α → StateM σ α
  or : α → α → StateM σ α

/-- A step of a program: a leaf with its number, or a connective. -/
inductive Instruction where
  | leaf (number : Nat) (atom : Atom)
  | join (logic : Logic)
deriving DecidableEq, Repr

namespace Formula

/-- Interprets a formula. -/
def interpret {σ α : Type} (t : Interpreter σ α) : Formula → StateM σ α
  | leaf a => t.leaf a
  | and left right => do
    let x ← left.interpret t
    let y ← right.interpret t
    t.and x y
  | or left right => do
    let x ← left.interpret t
    let y ← right.interpret t
    t.or x y

/-- Makes a program; the state is the number of leaves met so far. -/
def programmer : Interpreter Nat (List Instruction) where
  leaf a := fun n => ([.leaf (n + 1) a], n + 1)
  and x y := pure (x ++ y ++ [.join .and])
  or x y := pure (x ++ y ++ [.join .or])

/-- The program of a formula, its leaves numbered from one. -/
def program (f : Formula) : List Instruction :=
  (f.interpret programmer |>.run 0).1

/-- The effect of an instruction on a stack, the top first; none if it has too
few formulas. -/
def execute (stack : List Formula) : Instruction → Option (List Formula)
  | .leaf _ a => some (leaf a :: stack)
  | .join logic =>
    match stack with
    | right :: left :: rest => some (join logic left right :: rest)
    | _ => none

/-- The formula of a program: what is left after running it on an empty stack,
if that is one formula. -/
def ofProgram? (program : List Instruction) : Option Formula :=
  match program.foldlM execute [] with
  | some [f] => some f
  | _ => none

end Formula

end Criteria
