import Statechart.Definition.Basic
import Statechart.Json.Document
import Statechart.Json.Reader
/-!
The written form of definitions. A node is an object with the fields `initial`, `states` and `on`, or
an array of these three; what is left out or empty is not written. A field that is given twice is an
error, unknown fields are passed over, and of two targets for one event the last one counts.
-/

namespace Statechart

open Json (Document Key Value)

/-! ## Writing -/

namespace Node

/-- The event table as members of an object. -/
def onMembers (on : Table String) : List (String × Value) :=
  on.entries.map fun (event, target) => (event, .string target)

mutual

/-- The members of a node: only what is there. -/
def members : Node → List (String × Value)
  | mk initial states on =>
    (match initial with
      | some id => [("initial", .string id)]
      | none => []) ++
    (match states with
      | [] => []
      | states => [("states", .object (stateMembers states))]) ++
    (if on.isEmpty then [] else [("on", .object (onMembers on))])

def stateMembers : List (String × Node) → List (String × Value)
  | [] => []
  | (id, n) :: rest => (id, .object n.members) :: stateMembers rest

end

end Node

namespace Definition

/-- The members of a definition: id, context, then those of the root node. -/
def members (d : Definition) : List (String × Value) :=
  ("id", .string d.id) ::
    (match d.context with
      | some c => [("context", c)]
      | none => []) ++ d.root.members

/-- The definition as a value. -/
def toJson (d : Definition) : Value := .object d.members

end Definition

/-! ## Reading -/

namespace Node

/-- The fields of a node that have been read so far. -/
structure Fields where
  initial : Option (Option String) := none
  states : Option (List (String × Node)) := none
  on : Option (Table String) := none

/-- The node of its fields; what was not given is absent or empty. -/
def ofFields (f : Fields) : Node :=
  mk (f.initial.getD none) (f.states.getD []) (f.on.getD Table.empty)

/-- The fields of a node. -/
inductive Field
  | initial
  | states
  | on
  | unknown

/-- The field that a key names; a key that is neither a text nor a position names none. -/
def field? : Key → Option Field
  | .text "initial" | .position 0 => some .initial
  | .text "states" | .position 1 => some .states
  | .text "on" | .position 2 => some .on
  | .text _ | .position _ => some .unknown
  | .other => none

/-- The entries of an event table. -/
def readTargets? : List (Key × Document) → Option (List (String × String))
  | [] => some []
  | (.text event, .string target) :: rest => do
    let es ← readTargets? rest
    return (event, target) :: es
  | _ :: _ => none

/-- An event table; the last target of an event counts. -/
def readOn? : Document → Option (Table String)
  | .object entries => (readTargets? entries).map Table.ofList
  | _ => none

mutual

/-- A node, as an object or as an array of its fields. -/
def read? : Document → Option Node
  | .object entries => (readFields? entries).map ofFields
  | .array [] => some atomic
  | .array [i] => do
    let initial ← i.optionalText?
    return mk initial [] Table.empty
  | .array [i, s] => do
    let initial ← i.optionalText?
    let states ← readStates? s
    return mk initial states Table.empty
  | .array [i, s, o] => do
    let initial ← i.optionalText?
    let states ← readStates? s
    let on ← readOn? o
    return mk initial states on
  | _ => none

/-- The fields of a node. -/
def readFields? : List (Key × Document) → Option Fields
  | [] => some {}
  | (key, d) :: rest => do
    let f ← readFields? rest
    match ← field? key with
    | .initial =>
      let initial ← d.optionalText?
      if f.initial.isSome then none else return { f with initial := some initial }
    | .states =>
      let states ← readStates? d
      if f.states.isSome then none else return { f with states := some states }
    | .on =>
      let on ← readOn? d
      if f.on.isSome then none else return { f with on := some on }
    | .unknown => return f

/-- Child states. -/
def readStates? : Document → Option (List (String × Node))
  | .object entries => readEntries? entries
  | _ => none

/-- The entries of an object of child states. -/
def readEntries? : List (Key × Document) → Option (List (String × Node))
  | [] => some []
  | (.text id, d) :: rest => do
    let n ← read? d
    let ns ← readEntries? rest
    return (id, n) :: ns
  | _ :: _ => none

end

end Node

namespace Definition

/-- The fields of a definition beside those of its root node. -/
structure Header where
  id : Option String := none
  context : Option (Option Value) := none
  rest : List (Key × Document) := []

/-- Splits the entries of a definition into its own and those of the root node. The id may be called
`key` as well; null stands for no context. -/
def readHeader? : List (Key × Document) → Option Header
  | [] => some {}
  | (key, d) :: entries => do
    let h ← readHeader? entries
    match key with
    | .text "id" | .text "key" =>
      let id ← d.text?
      if h.id.isSome then none else return { h with id := some id }
    | .text "context" =>
      let context ← match d with
        | .null => some none
        | d => d.fold?.map some
      if h.context.isSome then none else return { h with context := some context }
    | key => return { h with rest := (key, d) :: h.rest }

/-- A definition from its header and root node. -/
def ofHeader? (h : Header) : Option Definition := do
  let id ← h.id
  let f ← Node.readFields? h.rest
  return ⟨id, h.context.getD none, Node.ofFields f⟩

/-- Reads a definition from a document. -/
def read? : Document → Option Definition
  | .object entries => (readHeader? entries).bind ofHeader?
  | _ => none

/-- Reads a definition from JSON text; everything in the text has to be readable. -/
def parse? (text : String) : Option Definition := do
  let d ← Document.parse? text
  if d.readable Json.maxLevels then read? d else none

/-- Reads a definition from a value. -/
def ofJson? (v : Value) : Option Definition := read? (.ofValue v)

end Definition

end Statechart
