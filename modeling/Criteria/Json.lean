/-!
# JSON values

The values of the data format, as they are found in a text.  A number keeps the
digits that it is written with.  A text that breaks the rules of the format still
has a value, up to the first fault: there it holds `broken`, and nothing after the
fault is kept.
-/

namespace Criteria

/-- The digits of a number as it is written. -/
structure Numeral where
  negative : Bool
  whole : List Char
  /-- The digits after the point, if there is one. -/
  fraction : Option (List Char)
  /-- Whether the exponent is negative and its digits, if there is one. -/
  exponent : Option (Bool × List Char)
deriving DecidableEq, Repr

mutual

/-- A value of the data format. -/
inductive Json where
  | null
  | bool (value : Bool)
  | number (numeral : Numeral)
  /-- A text; none if it holds half of a surrogate pair, which no text can. -/
  | string (value : Option String)
  | array (items : Items)
  | object (members : Members)
  /-- The text stops following the rules here. -/
  | broken

/-- The items of an array. -/
inductive Items where
  | nil
  | cons (item : Json) (rest : Items)

/-- The members of an object.  A key is a string unless the object breaks off at
it; it is then whatever stands in its place. -/
inductive Members where
  | nil
  | cons (key value : Json) (rest : Members)

end

mutual

/-- Whether a value follows the rules of the format throughout. -/
def Json.isIntact : Json → Bool
  | .array items => items.isIntact
  | .object members => members.isIntact
  | .broken => false
  | _ => true

/-- Whether items follow the rules of the format throughout. -/
def Items.isIntact : Items → Bool
  | .nil => true
  | .cons item rest => item.isIntact && rest.isIntact

/-- Whether members follow the rules of the format throughout. -/
def Members.isIntact : Members → Bool
  | .nil => true
  | .cons key value rest => key.isIntact && value.isIntact && rest.isIntact

end

/-- The members with the given names and values. -/
def Members.ofList : List (String × Json) → Members
  | [] => .nil
  | (key, value) :: rest => .cons (.string key) value (ofList rest)

/-- The numeral of an integer. -/
def Numeral.ofInt (n : Int) : Numeral :=
  ⟨decide (n < 0), Nat.toDigits 10 n.natAbs, none, none⟩

end Criteria
