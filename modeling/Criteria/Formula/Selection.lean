import Criteria.Formula

/-!
# Selecting records

Questions put to a list of items through a formula: which satisfy it, how many,
whether any or all do, and which is the first.  An item is seen as a record
through a view.
-/

namespace Criteria

namespace Formula

variable {α : Type}

/-- Whether an item satisfies the formula. -/
def acceptsItem (f : Formula) (view : α → Record) (x : α) : Bool :=
  f.accepts (view x)

/-- The items that satisfy the formula, in their order. -/
def filter (f : Formula) (view : α → Record) (xs : List α) : List α :=
  xs.filter (f.acceptsItem view)

/-- Copies of the items that satisfy the formula, in their order. -/
def copies (f : Formula) (view : α → Record) (copy : α → α) (xs : List α) : List α :=
  (xs.filter (f.acceptsItem view)).map copy

/-- Removes from an array the items that do not satisfy the formula. -/
def retain (f : Formula) (view : α → Record) (xs : Array α) : Array α :=
  xs.foldl (fun kept x => if f.acceptsItem view x then kept.push x else kept) #[]

/-- The number of items that satisfy the formula. -/
def count (f : Formula) (view : α → Record) (xs : List α) : Nat :=
  xs.countP (f.acceptsItem view)

/-- Whether some item satisfies the formula. -/
def any (f : Formula) (view : α → Record) (xs : List α) : Bool :=
  xs.any (f.acceptsItem view)

/-- Whether every item satisfies the formula. -/
def all (f : Formula) (view : α → Record) (xs : List α) : Bool :=
  xs.all (f.acceptsItem view)

/-- The first item that satisfies the formula. -/
def find? (f : Formula) (view : α → Record) (xs : List α) : Option α :=
  xs.find? (f.acceptsItem view)

/-- The index of the first item that satisfies the formula. -/
def position? (f : Formula) (view : α → Record) (xs : List α) : Option Nat :=
  xs.findIdx? (f.acceptsItem view)

end Formula

end Criteria
