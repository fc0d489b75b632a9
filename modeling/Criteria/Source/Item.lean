import Criteria.Source.Attribute
import Criteria.Source.Generics

/-!
# Declarations of types

The declaration of a type: its attributes, name, generic parameters and fields.  Only
what code can be generated from is kept; types, bounds and conditions are kept as their
tokens.
-/

namespace Criteria.Source

/-- A named field. -/
structure Field where
  attributes : List Attribute
  name : String
  type : Tokens
deriving Repr

/-- What a declaration declares. -/
inductive Data where
  | record (fields : List Field)
  | tuple
  | unit
  | enum
  | union
deriving Repr

/-- The declaration of a type. -/
structure Item where
  attributes : List Attribute
  name : String
  generics : Generics
  data : Data
deriving Repr

end Criteria.Source
