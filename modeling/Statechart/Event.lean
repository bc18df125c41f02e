import Statechart.Json.Document
import Statechart.Json.Reader
import Statechart.Json.Printer
/-!
Events. An event has a type and may carry a payload; only the type takes part in transitions. An
event is written as an object; it may also be read from its bare type.
-/

namespace Statechart

open Json (Document Key Value)

/-- An event. -/
structure Event where
  type : String
  payload : Option Value := none
deriving Inhabited

namespace Event

/-- The event as a value: the payload is left out where there is none. -/
def toJson (e : Event) : Value :=
  .object (("type", .string e.type) ::
    match e.payload with
    | some p => [("payload", p)]
    | none => [])

/-- The compact text of the event. -/
def text (e : Event) : String := e.toJson.compact

/-- The fields of an event that have been read so far. -/
structure Fields where
  type : Option String := none
  payload : Option (Option Value) := none

/-- The fields of an object. A field given twice is an error, unknown fields are passed over, and a
null payload is no payload. -/
def readFields? : List (Key × Document) → Option Fields
  | [] => some {}
  | (key, d) :: rest => do
    let f ← readFields? rest
    match key with
    | .text "type" | .position 0 =>
      let type ← d.text?
      if f.type.isSome then none else return { f with type := some type }
    | .text "payload" | .position 1 =>
      let payload ← match d with
        | .null => some none
        | d => d.fold?.map some
      if f.payload.isSome then none else return { f with payload := some payload }
    | .text _ | .position _ => return f
    | .other => none

/-- Reads an event: a bare type, or an object. -/
def read? : Document → Option Event
  | .string type => some { type }
  | .object entries => do
    let f ← readFields? entries
    let type ← f.type
    return { type, payload := f.payload.getD none }
  | _ => none

/-- Reads an event from JSON text. -/
def parse? (text : String) : Option Event := do
  let d ← Document.parse? text
  if d.readable Json.maxLevels then read? d else none

/-- Reads an event from a value. -/
def ofJson? (v : Value) : Option Event := read? (.ofValue v)

end Event

end Statechart
