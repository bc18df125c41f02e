import Statechart.Machine.Basic
import Statechart.Event
import Statechart.Snapshot
import Statechart.Text.Printable
import Statechart.Json.Outline
/-!
Interpreters: one machine driven through its life. An interpreter is idle until it is started, then
accepts events until it is stopped, and stays stopped. Observers are told about the start and about
every event, in the order of their registration and after the new state has taken effect; the first
one that fails ends the round and makes the call fail, but nothing is undone.
-/

namespace Statechart

open Json (Value)

/-- Where an interpreter stands in its life. -/
inductive Status
  | idle
  | running
  | stopped
deriving DecidableEq, Repr, Inhabited

/-- The name of a status. -/
def Status.name : Status → String
  | idle => "idle"
  | running => "running"
  | stopped => "stopped"

/-- Why a call on an interpreter fails. -/
inductive InterpreterError
  | definition (e : DefinitionError)
  | notRunning (status : Status)
  | alreadyRunning
  | unknownState (path : String)
  | observer (text : String)
deriving DecidableEq, Repr

namespace InterpreterError

/-- The stable code. -/
def code : InterpreterError → String
  | definition e => e.code
  | notRunning _ => "NOT_RUNNING"
  | alreadyRunning => "ALREADY_RUNNING"
  | unknownState _ => "STATE_NOT_FOUND"
  | observer _ => "OBSERVER_FAILED"

/-- The cause in words. -/
def message : InterpreterError → String
  | definition e => "invalid machine definition: " ++ e.message
  | notRunning status => "interpreter is not running (status: " ++ status.name ++ ")"
  | alreadyRunning => "interpreter is already running"
  | unknownState path => "state not found: " ++ path
  | observer text => "transition observer failed: " ++ text

/-- The call came at the wrong point of the interpreter's life. -/
def isLifecycle : InterpreterError → Bool
  | notRunning _ | alreadyRunning => true
  | _ => false

end InterpreterError

variable {C : Type}

/-- What an observer is told: the state after the change, and the event unless it is a start. -/
structure Notice (C : Type) where
  snapshot : Snapshot C
  event : Option Event

/-- An observer answers a notice in the light of those it was given before, newest first: with
nothing, or with the text of a failure. -/
def Observer (C : Type) := List (Notice C) → Notice C → Option String

/-- The observer that never fails. -/
def Observer.silent : Observer C := fun _ _ => none

/-- A registered observer with the notices it has been given, newest first. -/
structure Registration (C : Type) where
  id : Nat
  observer : Observer C
  seen : List (Notice C)

/-- An interpreter with contexts of type `C`. -/
structure Interpreter (C : Type) where
  machine : Machine
  status : Status
  active : ActivePath
  context : C
  defaultContext : C
  observers : List (Registration C)
  nextId : Nat

/-- What a round of notices did: the observers afterwards, the ids of those that were called, and
the text of the failure that ended the round. -/
structure Round (C : Type) where
  observers : List (Registration C)
  called : List Nat
  failure : Option String

/-- Gives a notice to the observers in turn, up to and including the first one that fails. -/
def tell (n : Notice C) : List (Registration C) → Round C
  | [] => ⟨[], [], none⟩
  | r :: rest =>
    let told := { r with seen := n :: r.seen }
    match r.observer r.seen n with
    | some text => ⟨told :: rest, [r.id], some text⟩
    | none =>
      let round := tell n rest
      ⟨told :: round.observers, r.id :: round.called, round.failure⟩

/-- What a call on an interpreter gives: the interpreter afterwards, the observer calls it made, in
order, and its result. -/
structure Reply (C α : Type) where
  interpreter : Interpreter C
  calls : List (Nat × Notice C)
  result : Except InterpreterError α

/-- The record of one event: where it was sent, where it led, and the state that handled it. -/
structure Step where
  source : StatePath
  destination : StatePath
  event : Event
  handledBy : Option StatePath
  handled : Bool

namespace Interpreter

/-- An idle interpreter with a given default context. -/
def new (m : Machine) (context : C) : Interpreter C :=
  { machine := m
    status := .idle
    active := m.initialPath
    context
    defaultContext := context
    observers := []
    nextId := 0 }

/-- Sets the context that `start` uses when none is given, and shows it at once. -/
def withDefaultContext (i : Interpreter C) (context : C) : Interpreter C :=
  { i with context, defaultContext := context }

/-- An idle interpreter whose default context is the one that the definition declares, else null. -/
def ofMachine (m : Machine) : Interpreter Value := new m (m.context.getD .null)

def isRunning (i : Interpreter C) : Bool := i.status == .running

/-- The path and the context. -/
def snapshot (i : Interpreter C) : Snapshot C := ⟨i.machine.pathOf i.active, i.context⟩

/-- The events that would be handled in the current state. -/
def availableEvents (i : Interpreter C) : List String := i.machine.eventsFor i.active

/-- Registers an observer behind the others; its id has not been used before. -/
def register (i : Interpreter C) (o : Observer C) : Interpreter C × Nat :=
  ({ i with observers := i.observers ++ [⟨i.nextId, o, []⟩], nextId := i.nextId + 1 }, i.nextId)

/-- Removes an observer; says whether it was registered. -/
def unregister (i : Interpreter C) (id : Nat) : Interpreter C × Bool :=
  ({ i with observers := i.observers.filter fun r => r.id != id },
    i.observers.any fun r => r.id == id)

/-- Tells the observers about the current state. The call succeeds with `a` if none of them fails. -/
def announce {α : Type} (i : Interpreter C) (event : Option Event) (a : α) : Reply C α :=
  let n : Notice C := ⟨i.snapshot, event⟩
  let round := tell n i.observers
  { interpreter := { i with observers := round.observers }
    calls := round.called.map fun id => (id, n)
    result := match round.failure with
      | some text => .error (.observer text)
      | none => .ok a }

/-- A call that is refused changes nothing. -/
def refuse {α : Type} (i : Interpreter C) (e : InterpreterError) : Reply C α := ⟨i, [], .error e⟩

/-- Why an interpreter cannot be started. -/
def startFault? (i : Interpreter C) : Option InterpreterError :=
  match i.status with
  | .idle => none
  | .running => some .alreadyRunning
  | .stopped => some (.notRunning .stopped)

/-- An idle interpreter put into the state at a position, with a given context or the default one. -/
def entered (i : Interpreter C) (node : Nat) (context : Option C) : Interpreter C :=
  { i with
    active := i.machine.enter node
    context := context.getD i.defaultContext
    status := .running }

/-- Starts in the initial state of the machine. -/
def start (i : Interpreter C) (context : Option C) : Reply C Unit :=
  match i.startFault? with
  | some e => i.refuse e
  | none => (i.entered Machine.root context).announce none ()

/-- Starts in the state that a text names. -/
def startAt (i : Interpreter C) (path : String) (context : Option C) : Reply C Unit :=
  match i.startFault? with
  | some e => i.refuse e
  | none =>
    match i.machine.lookup path with
    | none => i.refuse (.unknownState path)
    | some node => (i.entered node context).announce none ()

/-- Sends an event. An event that nothing handles leaves the state as it is and is announced too. -/
def send (i : Interpreter C) (event : Event) : Reply C Step :=
  if i.isRunning then
    let r := i.machine.transition i.active event.type
    let step : Step :=
      { source := i.machine.pathOf i.active
        destination := i.machine.pathOf r.active
        event
        handledBy := (r.source.bind i.machine.state?).map State.path
        handled := r.isHandled }
    { i with active := r.active }.announce (some event) step
  else i.refuse (.notRunning i.status)

/-- Stops a running interpreter and drops its observers. -/
def stop (i : Interpreter C) : Reply C Unit :=
  if i.isRunning then ⟨{ i with status := .stopped, observers := [] }, [], .ok ()⟩
  else i.refuse (.notRunning i.status)

/-- The outline of an interpreter, as a developer reads it. -/
def outline (i : Interpreter Value) : String :=
  let status := match i.status with
    | .idle => "Idle"
    | .running => "Running"
    | .stopped => "Stopped"
  let path := ", ".intercalate ((i.machine.pathOf i.active).segments.map Text.quote)
  "Interpreter \x7b machine: " ++ Text.quote i.machine.id ++ ", status: " ++ status ++
    ", active: StatePath([" ++ path ++ "]), context: " ++ String.ofList i.context.outline ++
    ", observers: " ++ toString i.observers.length ++ " \x7d"

end Interpreter

end Statechart
