import Criteria.Derive.Filter
import Criteria.Text.Screaming

/-!
# Generated records

What is generated for the declaration of a record: for every field that filters see, a
constant with its name, an arm of the function that tells the kinds of the fields, and
an arm of the accessor.

A constant has the screaming form of the field's name.  Nothing is generated when the
constants of two fields would be spelt alike.
-/

namespace Criteria.Derive

open Criteria.Source

/-- A generated constant: its identifier and the name that it stands for. -/
structure Constant where
  ident : String
  name : String
deriving DecidableEq, Repr

/-- An arm of the function that tells kinds: for a name, the type that tells its kind. -/
structure KindArm where
  name : String
  type : Tokens
deriving Repr

/-- What the fields of a record contribute. -/
structure ModelParts where
  constants : List Constant
  kindArms : List KindArm
  valueArms : List Arm
deriving Repr

/-- What is generated for a record. -/
structure GeneratedModel extends ModelParts where
  name : String
  generics : Generics
deriving Repr

namespace ModelParts

/-- The parts with a field in front. -/
def addField (parts : ModelParts) (f : Field) (name ident : String) : ModelParts where
  constants := ⟨ident, name⟩ :: parts.constants
  kindArms := ⟨name, f.type⟩ :: parts.kindArms
  valueArms := ⟨name, f.name⟩ :: parts.valueArms

/-- What fields contribute after others, whose constants were spelt in the given ways. -/
def ofFields (used : List String) : List Field → Except DeriveError ModelParts
  | [] => .ok ⟨[], [], []⟩
  | f :: rest =>
    match ModelDirective.ofAttributes f.attributes with
    | .error e => .error (.directive e)
    | .ok a =>
      if a.skip then ofFields used rest
      else
        let name := a.rename.getD (unraw f.name)
        let constant := Text.screaming name
        if used.contains constant then .error (.collision name)
        else
          match identifier? constant with
          | none => .error (.notIdentifier name)
          | some ident =>
            (ofFields (constant :: used) rest).map fun parts => parts.addField f name ident

end ModelParts

/-- What is generated for the declaration of a record. -/
def GeneratedModel.ofItem (item : Item) : Except DeriveError GeneratedModel := do
  let fields ← namedFields .model item.data
  let parts ← ModelParts.ofFields [] fields
  return { parts with name := item.name, generics := item.generics }

end Criteria.Derive
