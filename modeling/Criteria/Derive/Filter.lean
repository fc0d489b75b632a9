import Criteria.Derive.Error
import Criteria.Derive.Setter

/-!
# Generated filters

What is generated for the declaration of a filter: a table with a row for every field
that is a criterion, an accessor with an arm for every such field, and the field of the
page, if there is one.
-/

namespace Criteria.Derive

open Criteria.Source

/-- A row of a generated table: its name, the type that tells its kind, and the setters
of its rules. -/
structure FilterRow where
  name : String
  type : Tokens
  setters : List Setter
deriving Repr

/-- An arm of a generated accessor: for a name, the field that it reads. -/
structure Arm where
  name : String
  field : String
deriving DecidableEq, Repr

/-- What the fields of a filter contribute. -/
structure FilterParts where
  rows : List FilterRow
  arms : List Arm
  /-- The field of the page. -/
  paging : Option String
deriving Repr

/-- What is generated for a filter. -/
structure GeneratedFilter extends FilterParts where
  name : String
  generics : Generics
  /-- The type of the records. -/
  model : Tokens
deriving Repr

/-- An identifier without the mark of a raw one. -/
def unraw (name : String) : String :=
  match name.toList with
  | 'r' :: '#' :: rest => String.ofList rest
  | _ => name

namespace FilterParts

/-- The parts with a criterion in front. -/
def addRow (parts : FilterParts) (f : Field) (a : FilterDirective) : FilterParts where
  rows := ⟨unraw f.name, f.type, a.setters⟩ :: parts.rows
  arms := ⟨unraw f.name, f.name⟩ :: parts.arms
  paging := parts.paging

/-- What fields contribute, after a field of the page or none. -/
def ofFields (paging : Option String) : List Field → Except DeriveError FilterParts
  | [] => .ok ⟨[], [], paging⟩
  | f :: rest =>
    match FilterDirective.ofAttributes f.attributes with
    | .error e => .error (.directive e)
    | .ok none => ofFields paging rest
    | .ok (some a) =>
      if a.paging then
        if paging.isSome then .error .secondPaging else ofFields (some f.name) rest
      else (ofFields paging rest).map fun parts => parts.addRow f a

end FilterParts

/-- What is generated for the declaration of a filter. -/
def GeneratedFilter.ofItem (item : Item) : Except DeriveError GeneratedFilter := do
  let fields ← namedFields .filter item.data
  let model ← (modelOfAttributes item.attributes).mapError .directive
  let parts ← FilterParts.ofFields none fields
  if parts.rows.isEmpty then throw .noCriteria
  return { parts with name := item.name, generics := item.generics, model }

end Criteria.Derive
