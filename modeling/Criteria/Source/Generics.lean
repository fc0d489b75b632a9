import Criteria.Source.Token

/-!
# Generic parameters

What stands in angle brackets comes with lifetimes first, whatever the order was.  The
parameters of a declaration are written in three ways: as they are declared, without
their defaults, and by their names alone.
-/

namespace Criteria.Source

/-- An item of a list in angle brackets: whether it counts among the lifetimes, its
tokens, and whether a comma follows it. -/
structure AngleItem where
  isLifetime : Bool
  tokens : Tokens
  comma : Bool
deriving Repr

namespace AngleItem

/-- The item with its comma. -/
def write (item : AngleItem) : Tokens :=
  item.tokens ++ (if item.comma then [.punct ',' false] else [])

/-- The inside of the brackets: lifetimes come first, whatever the order was, and a
comma parts them from the rest. -/
def writeAll (items : List AngleItem) : Tokens :=
  let lifetimes := items.filter AngleItem.isLifetime
  let others := items.filter fun item => !item.isLifetime
  let parted := others.isEmpty || (lifetimes.getLast?.map AngleItem.comma).getD true
  lifetimes.flatMap write ++ (if parted then [] else [.punct ',' false]) ++ others.flatMap write

end AngleItem

/-- A generic parameter: its name, its declaration with attributes and bounds, and its
default with the equals sign. -/
structure Param where
  isLifetime : Bool
  name : Tokens
  declared : Tokens
  default : Tokens
deriving Repr

/-- The parameter with its default. -/
def Param.tokens (p : Param) : Tokens := p.declared ++ p.default

/-- Generic parameters in order, each with whether a comma follows it, and the
conditions on them. -/
structure Generics where
  /-- Whether there are angle brackets, empty ones included. -/
  bracketed : Bool
  params : List (Param × Bool)
  /-- Whether conditions are announced, even if none follow. -/
  conditioned : Bool
  conditions : Tokens
deriving Repr

namespace Generics

/-- Parameters in angle brackets, lifetimes first. -/
def enclosed (g : Generics) (form : Param → Tokens) : Tokens :=
  if g.params.isEmpty then []
  else
    let item (p : Param × Bool) : AngleItem :=
      { isLifetime := p.1.isLifetime, tokens := form p.1, comma := p.2 }
    code "<" ++ AngleItem.writeAll (g.params.map item) ++ code ">"

/-- The parameters as they are declared. -/
def tokens (g : Generics) : Tokens := g.enclosed Param.tokens

/-- The parameters as they are declared, without defaults. -/
def declared (g : Generics) : Tokens := g.enclosed Param.declared

/-- The parameters as arguments, by their names. -/
def applied (g : Generics) : Tokens := g.enclosed Param.name

/-- Whether there are neither brackets nor conditions. -/
def isAbsent (g : Generics) : Bool := !g.bracketed && !g.conditioned

end Generics

end Criteria.Source
