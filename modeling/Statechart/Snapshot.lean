import Statechart.StatePath
import Statechart.Json.Document
import Statechart.Json.Reader
import Statechart.Json.Printer
/-!
Snapshots: the path and the context of an interpreter at one moment.
-/

namespace Statechart

open Json (Document Key Value)

/-- A path with a context. -/
structure Snapshot (C : Type) where
  path : StatePath
  context : C

namespace Snapshot

variable {C : Type}

/-- The state value of the path. -/
def value (s : Snapshot C) : Value := s.path.value

/-- The path lies within a position, given from the root or from below it. -/
def matchesPath (s : Snapshot C) (position : String) : Bool :=
  (s.path.within? position).getD false

/-- The snapshot as a value. -/
def toJson (s : Snapshot Value) : Value :=
  .object [("path", s.path.toJson), ("context", s.context)]

/-- The fields of a snapshot that have been read so far. -/
structure Fields where
  path : Option StatePath := none
  context : Option Value := none

/-- What stands in a field of a snapshot. -/
def readContext? (d : Document) : Option Value :=
  if d.readable (Json.maxLevels - 1) then d.fold? else none

/-- The fields of an object. A field given twice is an error; what stands in an unknown field does
not matter. -/
def readFields? : List (Key × Document) → Option Fields
  | [] => some {}
  | (key, d) :: rest => do
    let f ← readFields? rest
    match key with
    | .text "path" =>
      let path ← StatePath.read? d
      if f.path.isSome then none else return { f with path := some path }
    | .text "context" =>
      let context ← readContext? d
      if f.context.isSome then none else return { f with context := some context }
    | .text _ => return f
    | _ => none

/-- Reads a snapshot: an object with both fields, or an array of the two. -/
def read? : Document → Option (Snapshot Value)
  | .object entries => do
    let f ← readFields? entries
    return ⟨← f.path, ← f.context⟩
  | .array [p, c] => do
    return ⟨← StatePath.read? p, ← readContext? c⟩
  | _ => none

/-- Reads a snapshot from JSON text. -/
def parse? (text : String) : Option (Snapshot Value) := (Document.parse? text).bind read?

end Snapshot

end Statechart
