import Criteria.Filter
import Criteria.Json.Number
import Criteria.Json.Reader
import Criteria.Text.Quoted

/-!
# Decoding JSON

From JSON values to the values of this library.  A value is looked at in the order
of its text, and the first thing wrong decides: a text that breaks the rules of the
format is refused as malformed where the fault is met, and a value of the wrong
sort is refused with its cause.

Keywords are strings, or objects with the keyword as their one key and null as its
value.  Options and pages are objects, or arrays with the fields in order; what is
missing has its default.  Options know their fields, pages pass over unknown ones.
-/

namespace Criteria.Json

/-- What was found where something else was expected. -/
inductive Found where
  | integer (value : Int)
  | fraction (value : Float)
  | bool (value : Bool)
  | string (value : String)
  | null
  | sequence
  | map

/-- Why a value is refused. -/
inductive DecodeError where
  /-- The text breaks the rules of the format. -/
  | malformed
  | unknownVariant (name : String) (expected : List String)
  | unknownField (name : String) (expected : List String)
  | duplicateField (name : String)
  | invalidType (found : Found) (expected : String)
  | outOfRange (value : Int) (expected : String)

namespace Found

/-- The finding in words. -/
def text : Found → String
  | integer n => "integer `" ++ toString n ++ "`"
  | fraction x => "floating point `" ++ String.ofList (Decimal.shortestText x) ++ "`"
  | bool b => "boolean `" ++ (if b then "true" else "false") ++ "`"
  | string s => "string " ++ Text.quote s
  | null => "null"
  | sequence => "sequence"
  | map => "map"

end Found

/-- The names that would have been right, in words. -/
def alternatives : List String → String
  | [] => "nothing"
  | [a] => "`" ++ a ++ "`"
  | [a, b] => "`" ++ a ++ "` or `" ++ b ++ "`"
  | names => "one of " ++ ", ".intercalate (names.map fun n => "`" ++ n ++ "`")

namespace DecodeError

/-- The refusal in words; a malformed text needs none. -/
def message? : DecodeError → Option String
  | malformed => none
  | unknownVariant name expected =>
    some ("unknown variant `" ++ name ++ "`, expected " ++ alternatives expected)
  | unknownField name expected =>
    some ("unknown field `" ++ name ++ "`, expected " ++ alternatives expected)
  | duplicateField name => some ("duplicate field `" ++ name ++ "`")
  | invalidType found expected =>
    some ("invalid type: " ++ found.text ++ ", expected " ++ expected)
  | outOfRange n expected =>
    some ("invalid value: integer `" ++ toString n ++ "`, expected " ++ expected)

end DecodeError

/-- A decoder of values. -/
abbrev Decoder (α : Type) := Json → Except DecodeError α

/-- Refuses a value that is not what was expected. -/
def mismatch {α : Type} (expected : String) (j : Json) : Except DecodeError α :=
  match j with
  | .null => .error (.invalidType .null expected)
  | .bool b => .error (.invalidType (.bool b) expected)
  | .number n =>
    match n.number? with
    | none => .error .malformed
    | some (.integer value) => .error (.invalidType (.integer value) expected)
    | some (.fraction value) => .error (.invalidType (.fraction value) expected)
  | .string none => .error .malformed
  | .string (some s) => .error (.invalidType (.string s) expected)
  | .array _ => .error (.invalidType .sequence expected)
  | .object _ => .error (.invalidType .map expected)
  | .broken => .error .malformed

/-- Decodes a truth value. -/
def decodeBool : Decoder Bool
  | .bool b => .ok b
  | other => mismatch "a boolean" other

/-- Decodes a number of 32 bits with sign. -/
def decodeInt32 (j : Json) : Except DecodeError Int32 :=
  match j with
  | .number n =>
    match n.number? with
    | some (.integer value) =>
      if -2147483648 ≤ value ∧ value ≤ 2147483647 then .ok (Int32.ofInt value)
      else .error (.outOfRange value "i32")
    | _ => mismatch "i32" j
  | _ => mismatch "i32" j

/-- Decodes null. -/
def decodeNull : Decoder Unit
  | .null => .ok ()
  | other => mismatch "unit" other

/-! ## Keywords -/

/-- The value of a name among named values. -/
def decodeName {α : Type} (variants : List (String × α)) (name : String) :
    Except DecodeError α :=
  match variants.lookup name with
  | some value => .ok value
  | none => .error (.unknownVariant name (variants.map Prod.fst))

/-- Decodes one of some named values. -/
def decodeVariant {α : Type} (variants : List (String × α)) : Decoder α
  | .string (some name) => decodeName variants name
  | .object (.cons (.string (some name)) value rest) => do
    let result ← decodeName variants name
    decodeNull value
    match rest with
    | .nil => .ok result
    | _ => .error .malformed
  | _ => .error .malformed

/-- Decodes a kind. -/
def decodeKind : Decoder Kind :=
  decodeVariant ([.text, .textList, .date, .optionalDate, .number, .bool].map
    fun k : Kind => (k.name, k))

/-- Decodes a case sensitivity. -/
def decodeCase : Decoder Case :=
  decodeVariant ([.sensitive, .insensitive].map fun c : Case => (c.name, c))

/-- Decodes a way of comparing text. -/
def decodeTextMatch : Decoder TextMatch :=
  decodeVariant ([.equals, .contains].map fun m : TextMatch => (m.name, m))

/-- Decodes a comparison of instants. -/
def decodeDateOp : Decoder DateOp :=
  decodeVariant ([.equality, .inequality, .lessThan, .lessThanOrEqual, .greaterThan,
    .greaterThanOrEqual].map fun op : DateOp => (op.name, op))

/-- Decodes a way of joining criteria. -/
def decodeLogic : Decoder Logic :=
  decodeVariant ([.and, .or].map fun l : Logic => (l.name, l))

/-! ## Options -/

/-- The one field of options. -/
def optimisticKey : String := "optimistic"

/-- Decodes the members of options after those that gave `optimistic`. -/
def decodeOptionsMembers (optimistic : Option Bool) :
    Members → Except DecodeError Options
  | .nil => .ok { optimistic := optimistic.getD false }
  | .cons (.string (some key)) value rest => do
    if key ≠ optimisticKey then .error (.unknownField key [optimisticKey])
    else if optimistic.isSome then .error (.duplicateField key)
    else
      let value ← decodeBool value
      decodeOptionsMembers (some value) rest
  | .cons _ _ _ => .error .malformed

/-- Decodes options. -/
def decodeOptions : Decoder Options
  | .object members => decodeOptionsMembers none members
  | .array .nil => .ok {}
  | .array (.cons first rest) => do
    let optimistic ← decodeBool first
    match rest with
    | .nil => .ok { optimistic }
    | _ => .error .malformed
  | other => mismatch "struct FilterOptions" other

/-! ## Pages -/

/-- The field that says where a page starts. -/
def startingIndexKey : String := "startingIndex"

/-- The field that says how long a page is. -/
def pageSizeKey : String := "pageSize"

/-- Decodes the members of a page after those that gave a start and a length. -/
def decodePagingMembers (start size : Option Int32) : Members → Except DecodeError Paging
  | .nil => .ok { startingIndex := start.getD (-1), pageSize := size.getD (-1) }
  | .cons (.string (some key)) value rest =>
    if key = startingIndexKey then
      if start.isSome then .error (.duplicateField key)
      else do
        let value ← decodeInt32 value
        decodePagingMembers (some value) size rest
    else if key = pageSizeKey then
      if size.isSome then .error (.duplicateField key)
      else do
        let value ← decodeInt32 value
        decodePagingMembers start (some value) rest
    else if value.isIntact then decodePagingMembers start size rest
    else .error .malformed
  | .cons _ _ _ => .error .malformed

/-- Decodes a page. -/
def decodePaging : Decoder Paging
  | .object members => decodePagingMembers none none members
  | .array .nil => .ok {}
  | .array (.cons first .nil) => do return { startingIndex := ← decodeInt32 first }
  | .array (.cons first (.cons second rest)) => do
    let startingIndex ← decodeInt32 first
    let pageSize ← decodeInt32 second
    match rest with
    | .nil => .ok { startingIndex, pageSize }
    | _ => .error .malformed
  | other => mismatch "struct Paging" other

/-! ## Instants -/

/-- Decodes an instant: an integer of 128 bits, of any number of digits. -/
def decodeTimestamp : Decoder Timestamp
  | .number n =>
    match n.integer?.bind Timestamp.ofNanos? with
    | some t => .ok t
    | none => .error .malformed
  | _ => .error .malformed

/-! ## Whole texts -/

/-- Decodes a text that holds one value and blanks. -/
def decodeText {α : Type} (decode : Decoder α) (s : String) : Except DecodeError α := do
  let (value, alone) := read s
  let result ← decode value
  if alone then .ok result else .error .malformed

end Criteria.Json
