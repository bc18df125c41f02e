import Statechart.Settings.Yaml
import Statechart.Command
import Statechart.Exit
/-!
The scripted runner: it takes its settings from the environment, runs a script against a machine and
prints the report. Settings that cannot be used end it if a settings file was asked for; without one
the defaults are used in their place.
-/

namespace Statechart.ScriptedRun

/-- The settings of a run. -/
def settings (diag : Diagnostics) (env : Environment) (files : Files) :
    Except Settings.Error Settings :=
  match Settings.load diag env files with
  | .ok s => .ok s
  | .error e => if (env "SUBSTATE_CONFIG").isSome then .error e else .ok {}

/-- The run that settings ask for. -/
def request (s : Settings) : RunRequest :=
  { machine := s.definition
    script := s.script
    style := s.style
    onFailure := s.onFailure }

/-- What comes of the runner. A failure ends the program as its result; how such a result is printed
to standard error, and the lines that are logged there, are left out. -/
def run (diag : Diagnostics) (env : Environment) (files : Files) : Exit :=
  match settings diag env files with
  | .error _ => { code := 1 }
  | .ok s =>
    match (request s).perform diag files with
    | .ok report => { code := 0, out := report.render s.style }
    | .error _ => { code := 1 }

end Statechart.ScriptedRun
