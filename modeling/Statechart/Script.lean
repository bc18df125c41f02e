import Statechart.Event
/-!
Scripts: the state and the context to start with, if they are given, and the events to send. A script
is written as an object; in JSON it may also be an array of its fields.
-/

namespace Statechart

open Json (Document Key Value)

/-- A script. -/
structure Script where
  startAt : Option String := none
  context : Option Value := none
  events : List Event := []
deriving Inhabited

namespace Script

/-- The script of a list of event types. -/
def ofTypes (types : List String) : Script := { events := types.map fun type => { type } }

/-- The script as a value: what is absent is left out, the events are always there. -/
def toJson (s : Script) : Value :=
  .object (
    (match s.startAt with
      | some p => [("start_at", .string p)]
      | none => []) ++
    (match s.context with
      | some c => [("context", c)]
      | none => []) ++
    [("events", .array (s.events.map Event.toJson))])

/-- The fields of a script that have been read so far. -/
structure Fields where
  startAt : Option (Option String) := none
  context : Option (Option Value) := none
  events : Option (List Event) := none

/-- The script of its fields. -/
def ofFields (f : Fields) : Script :=
  { startAt := f.startAt.getD none, context := f.context.getD none, events := f.events.getD [] }

section Reading

/-! What stands in a field has to be fit to be read. -/

variable (isFit : Document → Bool)

/-- Reads what stands in a field. -/
def readFit? {α : Type} (d : Document) (read? : Document → Option α) : Option α :=
  if isFit d then read? d else none

/-- A context; null stands for none. -/
def readContext? (d : Document) : Option (Option Value) :=
  readFit? isFit d fun
    | .null => some none
    | d => d.fold?.map some

/-- A list of events. -/
def readEvents? (d : Document) : Option (List Event) :=
  readFit? isFit d fun
    | .array items => items.mapM Event.read?
    | _ => none

/-- The fields of an object. A field given twice is an error; what stands in an unknown field does
not matter. -/
def readFields? : List (Key × Document) → Option Fields
  | [] => some {}
  | (key, d) :: rest => do
    let f ← readFields? rest
    match key with
    | .text "start_at" =>
      let startAt ← d.optionalText?
      if f.startAt.isSome then none else return { f with startAt := some startAt }
    | .text "context" =>
      let context ← readContext? isFit d
      if f.context.isSome then none else return { f with context := some context }
    | .text "events" =>
      let events ← readEvents? isFit d
      if f.events.isSome then none else return { f with events := some events }
    | .text _ => return f
    | _ => none

/-- Reads a script: an object, or an array of at most three fields in their order. -/
def read? : Document → Option Script
  | .object entries => (readFields? isFit entries).map ofFields
  | .array [] => some {}
  | .array [s] => do
    return { startAt := ← s.optionalText? }
  | .array [s, c] => do
    return { startAt := ← s.optionalText?, context := ← readContext? isFit c }
  | .array [s, c, e] => do
    return {
      startAt := ← s.optionalText?
      context := ← readContext? isFit c
      events := ← readEvents? isFit e }
  | _ => none

end Reading

/-- Reads a script from JSON text, whose fields have to be readable below the script. -/
def parse? (text : String) : Option Script :=
  (Document.parse? text).bind (read? (Document.readable (Json.maxLevels - 1)))

/-- Reads a script from a value, however deep it is. -/
def ofJson? (v : Value) : Option Script := read? (fun _ => true) (.ofValue v)

end Script

end Statechart
