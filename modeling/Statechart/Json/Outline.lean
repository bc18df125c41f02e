import Statechart.Json.Value
import Statechart.Text.Printable
/-!
The outline of a value: every part is named by its kind, as a developer reads it.
-/

namespace Statechart.Json.Value

mutual

/-- The outline of a value. -/
def outline : Value → List Char
  | .null => "Null".toList
  | .bool true => "Bool(true)".toList
  | .bool false => "Bool(false)".toList
  | .number n => "Number(".toList ++ n.print ++ [')']
  | .string s => "String(".toList ++ (Text.quote s).toList ++ [')']
  | .array items => "Array [".toList ++ outlineItems items ++ [']']
  | .object members => "Object \x7b".toList ++ outlineMembers members ++ ['}']

def outlineItems : List Value → List Char
  | [] => []
  | [v] => outline v
  | v :: rest => outline v ++ ", ".toList ++ outlineItems rest

def outlineMembers : List (String × Value) → List Char
  | [] => []
  | [(name, v)] => (Text.quote name).toList ++ ": ".toList ++ outline v
  | (name, v) :: rest =>
    (Text.quote name).toList ++ ": ".toList ++ outline v ++ ", ".toList ++ outlineMembers rest

end

end Statechart.Json.Value
