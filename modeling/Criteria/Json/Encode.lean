import Criteria.Filter
import Criteria.Json.Writer

/-!
# Encoding as JSON

The JSON values of this library's small values.
-/

namespace Criteria

/-- A kind as its keyword. -/
def Kind.json (k : Kind) : Json := .string k.name

/-- A case sensitivity as its keyword. -/
def Case.json (c : Case) : Json := .string c.name

/-- A way of comparing text as its keyword. -/
def TextMatch.json (m : TextMatch) : Json := .string m.name

/-- A comparison of instants as its keyword. -/
def DateOp.json (op : DateOp) : Json := .string op.name

/-- A way of joining criteria as its keyword. -/
def Logic.json (l : Logic) : Json := .string l.name

/-- Options as an object. -/
def Options.json (o : Options) : Json :=
  .object (.ofList [("optimistic", .bool o.optimistic)])

/-- A page as an object. -/
def Paging.json (p : Paging) : Json :=
  .object (.ofList
    [("startingIndex", .number (.ofInt p.startingIndex.toInt)),
      ("pageSize", .number (.ofInt p.pageSize.toInt))])

/-- An instant as its count of nanoseconds. -/
def Timestamp.json (t : Timestamp) : Json := .number (.ofInt t.nanos)

end Criteria
