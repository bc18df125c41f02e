import Statechart.Report
import Statechart.Run
import Statechart.Files
import Statechart.Text.Blank
import Statechart.Text.Lowercase
/-!
Settings of the scripted runner. They come in layers: defaults, a file, the environment. Every layer
may leave a setting open, and of two layers the upper one counts for each setting by itself.
-/

namespace Statechart

/-- The settings. -/
structure Settings where
  /-- The source of the machine. -/
  definition : String := "builtin:subscription"
  /-- The file of the script. -/
  script : Option String := none
  /-- Run the reference script if no file is set. -/
  builtin : Bool := true
  stopOnError : Bool := true
  format : Report.Format := .text
  showContext : Bool := false
deriving DecidableEq, Repr, Inhabited

/-- The variables of the environment. -/
abbrev Environment := String → Option String

namespace Settings

/-- A layer of settings, each of which may be open. -/
structure Layer where
  definition : Option String := none
  script : Option (Option String) := none
  builtin : Option Bool := none
  stopOnError : Option Bool := none
  format : Option Report.Format := none
  showContext : Option Bool := none
deriving DecidableEq, Repr, Inhabited

/-- Puts a layer over settings. -/
def Layer.over (l : Layer) (s : Settings) : Settings :=
  { definition := l.definition.getD s.definition
    script := l.script.getD s.script
    builtin := l.builtin.getD s.builtin
    stopOnError := l.stopOnError.getD s.stopOnError
    format := l.format.getD s.format
    showContext := l.showContext.getD s.showContext }

/-! ## The environment -/

/-- A variable switches something on if it is `1` or `true` in any case. -/
def isOn (value : String) : Bool := value == "1" || Text.lowercase value == "true"

/-- The format that a variable names, in any case. -/
def formatNamed? (value : String) : Option Report.Format :=
  match Text.lowercase value with
  | "json" => some .json
  | "text" => some .text
  | _ => none

/-- The layer of the environment. -/
def Layer.ofEnvironment (env : Environment) : Layer :=
  { definition := (env "SUBSTATE_MACHINE").filter fun v => v != ""
    script := (env "SUBSTATE_SCRIPT").map some
    stopOnError := (env "SUBSTATE_STOP_ON_ERROR").map isOn
    format := (env "SUBSTATE_OUTPUT").bind formatNamed?
    showContext := (env "SUBSTATE_SHOW_CONTEXT").map isOn }

/-! ## Checking -/

/-- What settings may lack. -/
inductive Lack
  | definition
  | script
deriving DecidableEq, Repr

/-- The lack in words. -/
def Lack.message : Lack → String
  | definition => "machine.definition must not be empty"
  | script => "no event script: set script.path or enable script.builtin"

/-- What settings lack: a machine, or a script. -/
def lack? (s : Settings) : Option Lack :=
  if Text.allBlank s.definition then some .definition
  else if s.script.isNone && !s.builtin then some .script
  else none

/-- Why settings cannot be loaded or saved. -/
inductive Error
  | file (name : String) (fault : FileFault)
  /-- The file of this name is no settings file, for which the parser has the words. -/
  | malformed (name words : String)
  | lacking (lack : Lack)
deriving DecidableEq, Repr

/-- The kind of an error. -/
def Error.kind : Error → String
  | file .. => "IoError"
  | malformed .. => "ParseError"
  | lacking _ => "ValidationError"

/-- The cause in words. -/
def Error.message : Error → String
  | file name fault => "failed to read config file '" ++ name ++ "': " ++ fault.message
  | malformed name words => "failed to parse config file '" ++ name ++ "': " ++ words
  | lacking lack => "configuration validation failed: " ++ lack.message

/-- Refuses settings that lack something. -/
def validate (s : Settings) : Except Error Unit :=
  match s.lack? with
  | some lack => .error (.lacking lack)
  | none => .ok ()

/-- How the report is shown. -/
def style (s : Settings) : Report.Style := ⟨s.format, s.showContext⟩

/-- What a failing event does. -/
def onFailure (s : Settings) : OnFailure := if s.stopOnError then .stop else .keepGoing

end Settings

end Statechart
