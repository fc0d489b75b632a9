import Criteria.Derive.Directive

/-!
# Declarations without generated code

Code is generated for declarations with named fields whose directives can be read.
-/

namespace Criteria.Derive

open Criteria.Source

/-- The two sorts of generated code. -/
inductive Derivable where
  | filter
  | model
deriving DecidableEq, Repr

/-- The name of the interface that generated code implements. -/
def Derivable.name : Derivable → String
  | filter => "Filter"
  | model => "Model"

/-- Why no code is generated for a declaration. -/
inductive DeriveError where
  /-- It does not declare a record. -/
  | notStruct (what : Derivable)
  /-- Its fields have no names. -/
  | unnamedFields (what : Derivable)
  | directive (error : DirectiveError)
  /-- Two fields hold a page. -/
  | secondPaging
  /-- No field is a criterion. -/
  | noCriteria
  /-- The constant of a field is the constant of an earlier one. -/
  | collision (name : String)
  /-- The constant of a field would have no identifier for its name. -/
  | notIdentifier (name : String)
deriving DecidableEq, Repr

/-- Why nothing is generated, in words. -/
def DeriveError.message : DeriveError → String
  | notStruct what => what.name ++ " can only be derived for structs"
  | unnamedFields what => what.name ++ " can only be derived for structs with named fields"
  | directive error => error.message
  | secondPaging => "only one field can be marked #[filter(paging)]"
  | noCriteria => "Filter requires at least one field marked #[filter]"
  | collision name => "model field name '" ++ name ++ "' collides with another field"
  | notIdentifier name => "model field name '" ++ name ++ "' is not a valid identifier"

/-- The fields of a declaration with named fields. -/
def namedFields (what : Derivable) : Data → Except DeriveError (List Field)
  | .record fields => .ok fields
  | .tuple | .unit => .error (.unnamedFields what)
  | .enum | .union => .error (.notStruct what)

end Criteria.Derive
