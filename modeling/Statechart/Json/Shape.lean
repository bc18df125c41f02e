import Statechart.Json.Value
import Statechart.Table
/-!
Typed views of a value: what a value is when it is read as an integer of a given width, a truth
value, a text, a list or a table. A value that does not fit has no view.
-/

namespace Statechart.Json

/-- The types a value can be read as. -/
inductive Shape
  | int64
  | uint8
  | bool
  | string
  | int64List
  | int64Table
  | optionalBool
deriving DecidableEq, Repr

/-- An integer between two bounds, both included. -/
def Value.boundedInteger? (low high : Int) : Value → Option Value
  | .number (.integer n h) =>
    if low ≤ n ∧ n ≤ high then some (.number (.integer n h)) else none
  | _ => none

/-- An integer of 64 bits with a sign. -/
def Value.int64? (v : Value) : Option Value :=
  v.boundedInteger? (-0x8000000000000000) 0x7FFFFFFFFFFFFFFF

/-- The value read as `shape` and written back; tables come out sorted by name. -/
def Value.readAs? (v : Value) : Shape → Option Value
  | .int64 => v.int64?
  | .uint8 => v.boundedInteger? 0 255
  | .bool => match v with
    | .bool b => some (.bool b)
    | _ => none
  | .string => match v with
    | .string s => some (.string s)
    | _ => none
  | .int64List => match v with
    | .array items => (items.mapM int64?).map .array
    | _ => none
  | .int64Table => match v with
    | .object members => do
      let entries ← members.mapM fun (k, x) => x.int64?.map (k, ·)
      return .object (Table.ofList entries).entries
    | _ => none
  | .optionalBool => match v with
    | .null => some .null
    | .bool b => some (.bool b)
    | _ => none

end Statechart.Json
