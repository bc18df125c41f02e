import Statechart.Session.Request
import Statechart.Diagnostics
import Statechart.Report
import Statechart.Tree
import Statechart.Json.Reader
/-!
Sessions: one machine driven by typed lines. A session holds an interpreter with one observer that
never fails, and the notices that observer was given since the session was made or last reset; they
outlive the interpreter's observer. A request that fails leaves the session as it was.
-/

namespace Statechart

open Json (Value)

/-- A session over one machine; the history is oldest first. -/
structure Session where
  machine : Machine
  interpreter : Interpreter Value
  history : List (Notice Value)

namespace Session

/-- An idle interpreter with the observer of a session. -/
def interpreterOf (m : Machine) : Interpreter Value :=
  ((Interpreter.ofMachine m).register .silent).1

/-- A session that has not been used. -/
def new (m : Machine) : Session :=
  { machine := m
    interpreter := interpreterOf m
    history := [] }

/-- Clears the history and puts a new interpreter in the place of the old one. -/
def reset (s : Session) : Session :=
  { s with
    interpreter := interpreterOf s.machine
    history := [] }

/-- Why a request fails. -/
inductive Error
  | interpreter (e : InterpreterError)
  /-- The context is no JSON, for which the parser has the words. -/
  | malformedContext (words : String)
deriving DecidableEq, Repr

namespace Error

/-- The stable code; a context that is no JSON has none. -/
def code? : Error → Option String
  | interpreter e => some e.code
  | malformedContext _ => none

/-- The cause in words. -/
def message : Error → String
  | interpreter e => e.message
  | malformedContext words => words

/-- The request came at the wrong point of the interpreter's life. -/
def isLifecycle : Error → Bool
  | interpreter e => e.isLifecycle
  | malformedContext _ => false

/-- The error as the session shows it, with a hint if the request came at the wrong time. -/
def describe (e : Error) : String :=
  (match e.code? with
    | some code => "Error [" ++ code ++ "]: " ++ e.message
    | none => "Error: " ++ e.message) ++
  if e.isLifecycle then "\n  (use 'start' to begin, or 'reset' for a fresh interpreter)" else ""

end Error

/-- What a request leads to. -/
inductive Outcome
  | output (text : String)
  | failed (e : Error)
  | quit
deriving DecidableEq, Repr

/-- The session after a call on its interpreter. -/
def after {α : Type} (s : Session) (reply : Reply Value α) : Session :=
  { s with
    interpreter := reply.interpreter
    history := s.history ++ reply.calls.map Prod.snd }

/-- The session after a call, and what is shown of its result. -/
def conclude {α : Type} (s : Session) (reply : Reply Value α) (describe : Session → α → String) :
    Session × Outcome :=
  let s := s.after reply
  match reply.result with
  | .ok a => (s, .output (describe s a))
  | .error e => (s, .failed (.interpreter e))

/-- Sends events one after the other, up to the first that fails. -/
def sendAll (s : Session) : List String → Session × Except InterpreterError (List Step)
  | [] => (s, .ok [])
  | type :: rest =>
    let reply := s.interpreter.send { type }
    let s := s.after reply
    match reply.result with
    | .error e => (s, .error e)
    | .ok step =>
      let (s, steps) := s.sendAll rest
      (s, steps.map (step :: ·))

/-- What a session shows of an event. -/
def stepLine (step : Step) : String :=
  step.event.type ++ " -> " ++ step.destination.display ++
    if step.handled then "" else " (ignored)"

/-- What a session shows of a notice. -/
def noticeLine (n : Notice Value) : String :=
  (match n.event with
    | some e => e.type
    | none => "(start)") ++ " -> " ++ n.snapshot.path.display

/-- Lines as one text, without blanks at its end. -/
def block (lines : List String) : String :=
  Text.trimEnd (String.join (lines.map fun l => l ++ "\n"))

/-- The current path. -/
def path (s : Session) : StatePath := s.interpreter.snapshot.path

/-- The lines of the history, numbered. -/
def historyLines (s : Session) : List String :=
  s.history.zipIdx.map fun (n, i) => "[" ++ toString i ++ "] " ++ noticeLine n

/-- Starts the interpreter. A context that is no JSON is refused before anything else. -/
def startWith (diag : Diagnostics) (s : Session) (state context : Option String) :
    Session × Outcome :=
  let begin (context : Option Value) : Session × Outcome :=
    let reply := match state with
      | some path => s.interpreter.startAt path context
      | none => s.interpreter.start context
    s.conclude reply fun s _ => "Started in " ++ s.path.display
  match context with
  | none => begin none
  | some text =>
    match Value.parse? text with
    | some v => begin (some v)
    | none => (s, .failed (.malformedContext (diag.context text)))

/-- Sends events and shows where each of them led. -/
def sendTypes (s : Session) (types : List String) : Session × Outcome :=
  if types.isEmpty then (s, .output "Usage: send <EVENT>...")
  else
    match s.sendAll types with
    | (s, .ok steps) => (s, .output (block (steps.map stepLine)))
    | (s, .error e) => (s, .failed (.interpreter e))

/-- Carries out a request. -/
def execute (diag : Diagnostics) (s : Session) : Request → Session × Outcome
  | .help => (s, .output helpText)
  | .quit => (s, .quit)
  | .start state context => s.startWith diag state context
  | .send types => s.sendTypes types
  | .stop => s.conclude s.interpreter.stop fun _ _ => "Stopped"
  | .reset => (s.reset, .output "Reset")
  | .state =>
    (s, .output (s.path.display ++ " [" ++ s.interpreter.status.name ++ "]"))
  | .value => (s, .output s.path.value.plain)
  | .events =>
    let events := s.interpreter.availableEvents
    (s, .output (if events.isEmpty then "No events" else ", ".intercalate events))
  | .context => (s, .output s.interpreter.context.pretty)
  | .history =>
    (s, .output (if s.history.isEmpty then "No transitions" else block s.historyLines))
  | .tree => (s, .output s.machine.tree)
  | .unknown name => (s, .output ("Unknown command: " ++ name ++ ". Type 'help' for help."))

/-- What stands in front of the next line: the state while the interpreter is running, else the
machine and the interpreter's status. -/
def label (s : Session) : String :=
  if s.interpreter.isRunning then s.path.relative ++ ">"
  else s.machine.id ++ " (" ++ s.interpreter.status.name ++ ")>"

end Session

end Statechart
