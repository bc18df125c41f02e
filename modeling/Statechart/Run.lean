import Statechart.Report
import Statechart.Script
/-!
Running a script: a fresh interpreter is started, gets the events one after the other and is stopped.
A failing event either ends the run or is recorded on its step while the run goes on.
-/

namespace Statechart

open Json (Value)

/-- What a failing event does to a run. -/
inductive OnFailure
  | stop
  | keepGoing
deriving DecidableEq, Repr

/-- What a run gives: the notices its observer was told, in order, and a report or the failure that
ended it. -/
structure Run where
  calls : List (Notice Value)
  result : Except InterpreterError Report

namespace Interpreter

/-- The step of an event that was sent: its record, or the failure at the state that was reached. -/
def reportStep (after : Interpreter Value) (event : Event) :
    Except InterpreterError Step → ReportStep
  | .ok s =>
    { event := s.event
      state := s.destination
      value := s.destination.value
      handled := s.handled
      error := none
      errorCode := none }
  | .error e =>
    { event
      state := after.snapshot.path
      value := after.snapshot.path.value
      handled := false
      error := some e.message
      errorCode := some e.code }

/-- The progress of a run: the interpreter, the notices and the steps so far. -/
structure Progress where
  interpreter : Interpreter Value
  calls : List (Notice Value)
  result : Except InterpreterError (List ReportStep)

/-- Sends the events of a script. -/
def sendAll (mode : OnFailure) (i : Interpreter Value) : List Event → Progress
  | [] => ⟨i, [], .ok []⟩
  | event :: rest =>
    let reply := i.send event
    let calls := reply.calls.map Prod.snd
    match reply.result, mode with
    | .error e, .stop => ⟨reply.interpreter, calls, .error e⟩
    | result, _ =>
      let step := reportStep reply.interpreter event result
      let p := sendAll mode reply.interpreter rest
      ⟨p.interpreter, calls ++ p.calls, p.result.map (step :: ·)⟩

end Interpreter

namespace Machine

/-- Starts an interpreter as a script says. -/
def startScript (s : Script) (i : Interpreter Value) : Reply Value Unit :=
  match s.startAt with
  | some path => i.startAt path s.context
  | none => i.start s.context

/-- Runs a script against a machine, with an observer. The observer that logs every notice is left
out: it is registered in front of this one, never fails, and only the log can tell that it is there. -/
def run (m : Machine) (mode : OnFailure) (s : Script) (o : Observer Value) : Run :=
  let started := startScript s ((Interpreter.ofMachine m).register o).1
  let calls := started.calls.map Prod.snd
  match started.result with
  | .error e => ⟨calls, .error e⟩
  | .ok () =>
    let p := started.interpreter.sendAll mode s.events
    let calls := calls ++ p.calls
    match p.result with
    | .error e => ⟨calls, .error e⟩
    | .ok steps =>
      let stopped := p.interpreter.stop
      match stopped.result with
      | .error e => ⟨calls, .error e⟩
      | .ok () =>
        ⟨calls, .ok
          { machine := m.id
            checksum := m.checksum
            initial := started.interpreter.snapshot.path
            initialValue := started.interpreter.snapshot.path.value
            steps
            context := stopped.interpreter.context
            status := stopped.interpreter.status }⟩

end Machine

end Statechart
