import Statechart.CommandLine.Arguments
import Statechart.Command
import Statechart.Exit
import Statechart.Session.Transcript
import Statechart.Settings.Basic
/-!
The command line: what its arguments ask for and what comes of it. Options that are not given come
from the environment. Without a command a session is held.
-/

namespace Statechart.CommandLine

/-- What a command line asks for. -/
inductive Invocation
  | session (machine : String)
  | command (c : Command)

/-- The machine that is used if no other one is named. -/
def defaultMachine : String := builtinMark ++ "subscription"

/-- The machine that is named by an option, else by the environment. -/
def machineOf (env : Environment) (items : List Item) : String :=
  ((valueOf? items "machine").or (env "SUBSTATE_MACHINE")).getD defaultMachine

/-- The script that is named by an option, else by the environment; its name is not empty. -/
def scriptOf (env : Environment) (items : List Item) : Except Refusal (Option String) :=
  match (valueOf? items "script").or (env "SUBSTATE_SCRIPT") with
  | some "" => .error .misuse
  | script => .ok script

/-- The option that names the machine. -/
def machineOption : Char × String := ('m', "machine")

/-- Reads the arguments of a session. -/
def readSession (env : Environment) (args : List String) : Except Refusal Invocation := do
  let items ← Grammar.read { valued := [machineOption] } args
  return .session (machineOf env items)

/-- Reads the arguments of a run. -/
def readRun (env : Environment) (args : List String) : Except Refusal Invocation := do
  let items ← Grammar.read
    { flags := ["json", "show-context", "keep-going"]
      valued := [machineOption, ('s', "script")]
      filled := ["script"] } args
  return .command (.run
    { machine := machineOf env items
      script := ← scriptOf env items
      style :=
        { format := if isSet items "json" then .json else .text
          showContext := isSet items "show-context" }
      onFailure := if isSet items "keep-going" then .keepGoing else .stop })

/-- Reads the one source that a command is about. -/
def readSource (command : String → Command) (args : List String) : Except Refusal Invocation := do
  match plain? (← Grammar.read { plain := 1 } args) with
  | some source => return .command (command source)
  | none => throw .misuse

/-- The names of the commands. -/
def commandNames : List String := ["repl", "machines", "validate", "inspect", "run", "help"]

/-- Reads a request for help, perhaps about a command. -/
def readHelp : List String → Refusal
  | [] => .help
  | [name] => if commandNames.contains name then .help else .misuse
  | _ => .misuse

/-- Reads what stands in place of a command. -/
def readBare (first : String) (rest : List String) : Except Refusal Invocation :=
  if first == "--" then
    if rest.isEmpty then .ok (.session defaultMachine) else .error .misuse
  else if first == "--version" then .error .version
  else
    match first.toList with
    | '-' :: 'V' :: _ => .error .version
    | _ =>
      match Grammar.word {} first with
      | .help => .error .help
      | _ => .error .misuse

/-- Reads a command line. -/
def read (env : Environment) : List String → Except Refusal Invocation
  | [] => .ok (.session defaultMachine)
  | "repl" :: args => readSession env args
  | "machines" :: args => do
    let _ ← Grammar.read {} args
    return .command .machines
  | "validate" :: args => readSource .validate args
  | "inspect" :: args => readSource .inspect args
  | "run" :: args => readRun env args
  | "help" :: args => .error (readHelp args)
  | first :: rest => readBare first rest

/-- How the command line is used. -/
def usage : String :=
  "Command-line interface for substate hierarchical state machines\n\n" ++
  "Usage: substate-cli [COMMAND]\n\n" ++
  "Commands:\n" ++
  "  repl      Start interactive REPL\n" ++
  "  machines  List built-in machines\n" ++
  "  validate  Parse and validate a machine definition\n" ++
  "  inspect   Print the state tree of a machine definition\n" ++
  "  run       Run an event script and print the resulting states\n" ++
  "  help      Print this message or the help of the given subcommand(s)\n\n" ++
  "Options:\n" ++
  "  -h, --help     Print help\n" ++
  "  -V, --version  Print version\n"

/-- What comes of arguments that are not carried out. -/
def Refusal.exit : Refusal → Exit
  | misuse => { code := 2 }
  | help => { code := 0, out := usage }
  | version => { code := 0, out := "substate-cli 0.1.0\n" }

/-- What comes of a command. -/
def commandExit (diag : Diagnostics) (files : Files) (c : Command) : Exit :=
  match c.execute diag files with
  | .ok text => { code := 0, out := text ++ "\n" }
  | .error f => { code := 1, err := some f.describe }

/-- What comes of a session that reads the given lines. Without a machine the program ends with the
failure as its result, and how such a result is printed to standard error is left out. -/
def sessionExit (diag : Diagnostics) (files : Files) (machine : String) (lines : List String) :
    Exit :=
  match Machine.load diag files machine with
  | .ok m => { code := 0, out := Session.title ++ Session.conversation diag m lines }
  | .error _ => { code := 1, out := Session.title }

/-- What comes of a command line; `lines` is the standard input. -/
def run (diag : Diagnostics) (env : Environment) (files : Files) (args lines : List String) :
    Exit :=
  match read env args with
  | .error r => r.exit
  | .ok (.session machine) => sessionExit diag files machine lines
  | .ok (.command c) => commandExit diag files c

end Statechart.CommandLine
