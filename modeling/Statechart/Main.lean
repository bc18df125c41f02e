import Statechart.CommandLine.Basic
import Statechart.ScriptedRun
/-!
The programs. Under a name that ends in `cli` this is the command line, under any other name the
scripted runner. Here the environment and the files that are needed are read, and what the program
leaves behind is printed.
-/

namespace Statechart

/-- The fault behind an error of the operating system. The number 21 stands for a directory, also
with a minus sign. -/
def FileFault.ofError : IO.Error → FileFault
  | .noFileOrDirectory .. => .notFound
  | .inappropriateType _ number _ =>
    if number == 21 || number + 21 == 0 then .isDirectory else .notDirectory
  | e => .other (toString e)

/-- Reads a file. -/
def readFile (name : String) : IO (Except FileFault String) := do
  try
    let bytes ← IO.FS.readBinFile name
    match String.fromUTF8? bytes with
    | some text => return .ok text
    | none => return .error .notText
  catch e => return .error (.ofError e)

/-- Reads those of some sources that are files. -/
def readFiles (sources : List String) : IO Files := do
  let names := sources.filter fun s => (builtinName? s).isNone
  let contents ← names.mapM fun name => return (name, ← readFile name)
  return fun name => (contents.lookup name).getD (.error .notFound)

/-- Reads the variables of the environment that the programs know. -/
def readEnvironment : IO Environment := do
  let names := ["SUBSTATE_CONFIG", "SUBSTATE_MACHINE", "SUBSTATE_SCRIPT", "SUBSTATE_STOP_ON_ERROR",
    "SUBSTATE_OUTPUT", "SUBSTATE_SHOW_CONTEXT"]
  let values ← names.mapM fun name => return (name, ← IO.getEnv name)
  return fun name => (values.lookup name).join

/-- Prints what a program leaves behind. -/
def Exit.report (e : Exit) : IO UInt32 := do
  let out ← IO.getStdout
  out.putStr e.out
  out.flush
  match e.err with
  | some line => IO.eprintln line
  | none => pure ()
  return e.code.toUInt32

/-- The programs do not have the words of the parsers, and name what was expected in their place. -/
def diagnostics : Diagnostics :=
  { definition := fun _ => "expected a machine definition"
    definitionValue := fun _ => "expected a machine definition"
    definitionYaml := fun _ => "expected a machine definition"
    script := fun _ => "expected an event script"
    scriptYaml := fun _ => "expected an event script"
    settings := fun _ => "expected settings"
    context := fun _ => "expected a JSON value"
    shape := fun _ _ => "expected a value of another type" }

/-- Holds a session on the standard streams. -/
partial def converse (s : Session) : IO Unit := do
  let out ← IO.getStdout
  out.putStr s.prompt
  out.flush
  let line ← (← IO.getStdin).getLine
  if line.isEmpty then out.putStr Session.farewell
  else
    match s.respondTyped diagnostics line with
    | some (text, s) =>
      out.putStr text
      converse s
    | none => pure ()

/-- The sources that a command reads. -/
def Command.sources : Command → List String
  | machines => []
  | validate source | inspect source => [source]
  | run r => r.machine :: r.script.toList

/-- The command line. -/
def commandLine (args : List String) : IO UInt32 := do
  let env ← readEnvironment
  match CommandLine.read env args with
  | .error r => r.exit.report
  | .ok (.command c) => (CommandLine.commandExit diagnostics (← readFiles c.sources) c).report
  | .ok (.session source) =>
    let files ← readFiles [source]
    match Machine.load diagnostics files source with
    | .error _ => (CommandLine.sessionExit diagnostics files source []).report
    | .ok m =>
      (← IO.getStdout).putStr (Session.title ++ Session.opening m)
      converse (Session.new m)
      return 0

/-- The scripted runner. -/
def scriptedRunner : IO UInt32 := do
  let env ← readEnvironment
  let config := (env "SUBSTATE_CONFIG").toList
  let files ← readFiles config
  match ScriptedRun.settings diagnostics env files with
  | .error _ => (ScriptedRun.run diagnostics env files).report
  | .ok s =>
    let files ← readFiles (config ++ s.definition :: s.script.toList)
    (ScriptedRun.run diagnostics env files).report

end Statechart

/-- Runs the program that the executable is named for. -/
def main (args : List String) : IO UInt32 := do
  let program := toString (← IO.appPath)
  if "ilc".toList.isPrefixOf program.toList.reverse then Statechart.commandLine args
  else Statechart.scriptedRunner
