import Statechart.Machine.Builder
import Statechart.Definition.Format
import Statechart.Json.Printer
import Statechart.Diagnostics
import Statechart.Checksum
/-!
Machines: checked definitions whose states are laid out in document order and whose transition
targets are resolved to positions. A machine answers every question about its behaviour without side
effects: which states are entered with a state, which events are offered, what an event does.
-/

namespace Statechart

/-- A machine: its definition, its states in document order, and the position of each state by the
text of its path. -/
structure Machine where
  definition : Definition
  states : Array State
  index : Table Nat

/-- Positions from the root down to the active leaf. -/
structure ActivePath where
  nodes : List Nat
deriving DecidableEq, Repr

/-- The deepest active position. -/
def ActivePath.leaf (a : ActivePath) : Option Nat := a.nodes.getLast?

/-- What an event does to an active path: the position whose table has the event, none if there is
no such position, and the active path afterwards. -/
structure Resolution where
  source : Option Nat
  active : ActivePath
deriving DecidableEq, Repr

def Resolution.isHandled (r : Resolution) : Bool := r.source.isSome

namespace Machine

/-- The machine of a definition: its states are laid out, then their transitions are resolved. -/
def ofDefinition (d : Definition) : Except DefinitionError Machine :=
  match Builder.empty.addNode d.id d.rootPath none d.root with
  | .error e => .error e
  | .ok (b, _) =>
    match b.resolveAll b.pending with
    | .error e => .error e
    | .ok b => .ok ⟨d, b.states, b.index⟩

/-- The machine of what was read; `words` is what the parser says if that is no definition. -/
def ofRead (words : String) : Option Definition → Except DefinitionError Machine
  | some d => ofDefinition d
  | none => .error (.malformed words)

/-- The machine of JSON text. -/
def parse (diag : Diagnostics) (text : String) : Except DefinitionError Machine :=
  ofRead (diag.definition text) (Definition.parse? text)

/-- The machine of a JSON value. -/
def ofJson (diag : Diagnostics) (v : Json.Value) : Except DefinitionError Machine :=
  ofRead (diag.definitionValue v) (Definition.ofJson? v)

/-! ## Looking at a machine -/

def id (m : Machine) : String := m.definition.id

/-- The context that the definition declares. -/
def context (m : Machine) : Option Json.Value := m.definition.context

/-- The declared context read as a given type. -/
def contextAs (diag : Diagnostics) (m : Machine) (shape : Json.Shape) :
    Except DefinitionError (Option Json.Value) :=
  match m.context with
  | none => .ok none
  | some c =>
    match c.readAs? shape with
    | some v => .ok (some v)
    | none => .error (.malformed (diag.shape shape c))

/-- The number of states. -/
def size (m : Machine) : Nat := m.states.size

/-- The definition as compact JSON text. -/
def text (m : Machine) : String := m.definition.toJson.compact

/-- The checksum of the definition. -/
def checksum (m : Machine) : String := Checksum.ofText m.text

/-- The position of the root. -/
def root : Nat := 0

/-- The state at a position. -/
def state? (m : Machine) (i : Nat) : Option State := m.states[i]?

/-- The position of the state whose path is shown by a text. -/
def index? (m : Machine) (path : String) : Option Nat := m.index.get? path

/-- The position that a text names: a full path, with or without a leading `#`, or a path from below
the root. A full path wins. -/
def lookup (m : Machine) (path : String) : Option Nat :=
  let path := stripHash path
  match m.index? path with
  | some i => some i
  | none => m.index? (m.id ++ "." ++ path)

/-! ## Entering states -/

/-- The positions from the root down to `i`, in front of `below`; `fuel` bounds the depth. -/
def ancestors (m : Machine) : Nat → Nat → List Nat → List Nat
  | 0, i, below => i :: below
  | fuel + 1, i, below =>
    match (m.state? i).bind State.parent with
    | none => i :: below
    | some p => ancestors m fuel p (i :: below)

/-- The positions entered below `i`: initial children down to an atomic state. -/
def descent (m : Machine) : Nat → Nat → List Nat
  | 0, _ => []
  | fuel + 1, i =>
    match (m.state? i).bind State.initial with
    | none => []
    | some c => c :: descent m fuel c

/-- The active path when a state is entered. -/
def enter (m : Machine) (i : Nat) : ActivePath :=
  ⟨m.ancestors m.size i [] ++ m.descent m.size i⟩

/-- The active path when the machine starts. -/
def initialPath (m : Machine) : ActivePath := m.enter root

/-- The full path of the active leaf. -/
def pathOf (m : Machine) (a : ActivePath) : StatePath :=
  match (a.leaf.orElse fun _ => some root).bind m.state? with
  | some s => s.path
  | none => m.definition.rootPath

/-! ## Events -/

/-- The transition of an event at a position. -/
def transitionAt (m : Machine) (event : String) (i : Nat) : Option Transition :=
  (m.state? i).bind fun s => s.transitions.get? event

/-- What an event does: the deepest active state whose table has the event handles it. -/
def transition (m : Machine) (a : ActivePath) (event : String) : Resolution :=
  match a.nodes.reverse.findSome? fun i => (m.transitionAt event i).map fun t => (i, t.node) with
  | some (source, target) => ⟨some source, m.enter target⟩
  | none => ⟨none, a⟩

/-- The events handled by some active state, in increasing order. -/
def eventsFor (m : Machine) (a : ActivePath) : List String :=
  (a.nodes.flatMap fun i => (((m.state? i).map fun s => s.transitions.entries).getD [])).foldl
    (fun t e => t.insert e.1 ()) (Table.empty : Table Unit) |>.keys

end Machine

end Statechart
