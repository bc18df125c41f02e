import Statechart.Source
import Statechart.Run
import Statechart.Tree
/-!
Commands: list the built-in machines, check or show a machine, run a script.
-/

namespace Statechart

/-- What a run is asked to do. -/
structure RunRequest where
  machine : String
  script : Option String
  style : Report.Style
  onFailure : OnFailure

/-- A command. -/
inductive Command
  | machines
  | validate (source : String)
  | inspect (source : String)
  | run (request : RunRequest)

/-- Loads a machine and a script and runs them. -/
def RunRequest.perform (diag : Diagnostics) (files : Files) (r : RunRequest) :
    Except Failure Report := do
  let m ← Machine.load diag files r.machine
  let s ← Script.load diag files r.script
  ((m.run r.onFailure s .silent).result).mapError .interpreter

namespace Command

/-- A line for every built-in machine. -/
def machineList : Except Failure String := do
  let lines ← Preset.definitions.mapM fun (name, _) => do
    let m ← Machine.builtin name
    return "  " ++ builtinMark ++ name ++ " (" ++ toString m.size ++ " states)\n"
  return String.join lines

/-- What is worth knowing about a valid machine. -/
def summary (m : Machine) : String :=
  "Valid machine " ++ m.id ++ "\n  States: " ++ toString m.size ++ " (" ++
    toString (m.states.toList.countP State.isAtomic) ++ " atomic)\n  Initial: " ++
    (m.pathOf m.initialPath).display ++ "\n  Checksum: " ++ m.checksum

/-- The output of a command. -/
def execute (diag : Diagnostics) (files : Files) : Command → Except Failure String
  | machines => machineList
  | validate source => (Machine.load diag files source).map summary
  | inspect source => (Machine.load diag files source).map Machine.tree
  | run r => (r.perform diag files).map fun report => Text.trimEnd (report.render r.style)

end Command

end Statechart
