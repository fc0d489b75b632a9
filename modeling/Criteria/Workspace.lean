import Criteria.Checked
import Criteria.Formula.Selection

/-!
# Workspaces

A workspace holds columns, rows and named formulas, and is worked on by commands.
A row keeps the number that it was given when the rows were set, also when others
are removed.  A command that names a formula which is not there, or compiles a
filter with a fault, is refused and leaves the workspace as it was.
-/

namespace Criteria

/-- A numbered record. -/
structure Row where
  id : Nat
  record : Record

/-- Columns, rows, and formulas by name in increasing order of the names. -/
structure Workspace where
  columns : List (String × ColumnType) := []
  rows : List Row := []
  formulas : List (String × Formula) := []

/-- Something to be done with a workspace. -/
inductive Command where
  | setColumns (columns : List (String × ColumnType))
  | setRows (records : List Record)
  | define (name : String) (formula : Formula)
  | compile (name : String) (check : Bool) (options : Options) (filter : Filter)
  | join (logic : Logic) (name left right : String)
  | copy (source name : String)
  | equal (left right : String)
  | leaves (name : String)
  | root (name : String)
  | accepts (name : String)
  | rejected (name : String)
  | filter (name : String)
  | copies (name : String)
  | retain (name : String)
  | count (name : String)
  | any (name : String)
  | all (name : String)
  | find (name : String)
  | position (name : String)

/-- What a command answers. -/
inductive Answer where
  | done
  /-- A formula was stored under a name, or there was none to store; and the names
  in use. -/
  | stored (formula : Option Formula) (names : List String)
  | equal (value : Bool)
  | leaves (atoms : List Atom)
  | root (connective : Option Logic)
  | accepts (values : List Bool)
  | rejected (ids : List Nat)
  | rows (ids : List Nat)
  | count (n : Nat)
  | any (value : Bool)
  | all (value : Bool)
  | find (id : Option Nat)
  | position (index : Option Nat)

/-- Why a command is refused. -/
inductive Refusal where
  | unknownName (name : String)
  | fault (fault : StagedFault)

/-- Puts a value under a name into a list in increasing order of names, in place of
one that is there already. -/
def insertNamed {α : Type} (name : String) (value : α) :
    List (String × α) → List (String × α)
  | [] => [(name, value)]
  | (other, old) :: rest =>
    if name = other then (name, value) :: rest
    else if name < other then (name, value) :: (other, old) :: rest
    else (other, old) :: insertNamed name value rest

namespace Workspace

/-- The formula under a name. -/
def formula (w : Workspace) (name : String) : Except Refusal Formula :=
  match w.formulas.lookup name with
  | some f => .ok f
  | none => .error (.unknownName name)

/-- The names in use, in increasing order. -/
def names (w : Workspace) : List String :=
  w.formulas.map Prod.fst

/-- Stores a formula under a name. -/
def define (w : Workspace) (name : String) (f : Formula) : Workspace :=
  { w with formulas := insertNamed name f w.formulas }

/-- Stores a formula under a name and says so. -/
def store (w : Workspace) (name : String) (f : Formula) : Workspace × Answer :=
  let next := w.define name f
  (next, .stored (some f) next.names)

/-- Carries out a command, or refuses it. -/
def run (w : Workspace) : Command → Except Refusal (Workspace × Answer)
  | .setColumns columns => .ok ({ w with columns }, .done)
  | .setRows records =>
    let rows := records.zipIdx.map fun p => Row.mk p.2 p.1
    .ok ({ w with rows }, .rows (rows.map Row.id))
  | .define name f => .ok (w.store name f)
  | .compile name check options filter =>
    match filter.compile check (Schema.ofColumns w.columns) options with
    | .error fault => .error (.fault fault)
    | .ok none => .ok (w, .stored none w.names)
    | .ok (some f) => .ok (w.store name f)
  | .join logic name left right => do
    let x ← w.formula left
    let y ← w.formula right
    return w.store name (Formula.join logic x y)
  | .copy source name => return w.store name (← w.formula source)
  | .equal left right => do
    let x ← w.formula left
    let y ← w.formula right
    return (w, .equal (x == y))
  | .leaves name => return (w, .leaves (← w.formula name).leaves)
  | .root name => return (w, .root (← w.formula name).connective?)
  | .accepts name => do
    let f ← w.formula name
    return (w, .accepts (w.rows.map (f.acceptsItem Row.record)))
  | .rejected name => do
    let f ← w.formula name
    return (w, .rejected ((w.rows.filter fun row => !f.acceptsItem Row.record row).map Row.id))
  | .filter name => do
    let f ← w.formula name
    return (w, .rows ((f.filter Row.record w.rows).map Row.id))
  | .copies name => do
    let f ← w.formula name
    return (w, .rows ((f.copies Row.record id w.rows).map Row.id))
  | .retain name => do
    let f ← w.formula name
    let rows := (f.retain Row.record w.rows.toArray).toList
    return ({ w with rows }, .rows (rows.map Row.id))
  | .count name => return (w, .count ((← w.formula name).count Row.record w.rows))
  | .any name => return (w, .any ((← w.formula name).any Row.record w.rows))
  | .all name => return (w, .all ((← w.formula name).all Row.record w.rows))
  | .find name =>
    return (w, .find (((← w.formula name).find? Row.record w.rows).map Row.id))
  | .position name =>
    return (w, .position ((← w.formula name).position? Row.record w.rows))

end Workspace

end Criteria
