import Statechart.Diagnostics
import Statechart.Settings.Basic
import Statechart.Yaml.Reading
import Statechart.Yaml.Writer
/-!
The settings file. It has three sections, each of which may be left out; a setting that is given twice
is an error, and one that is not known is not looked at.
-/

namespace Statechart.Settings

open Yaml (Read)

/-- Fills an open setting; one that is filled already is given twice. -/
def fill {α : Type} (old : Option α) (new : α) : Read (Option α) :=
  if old.isSome then failure else return some new

/-- The format with a given name. -/
def exactFormat? : String → Option Report.Format
  | "text" => some .text
  | "json" => some .json
  | _ => none

/-- A format: its name as a scalar, or as the tag of nothing. -/
def readFormat (n : Yaml.Node) : Read Report.Format := do
  match ← n.follow with
  | .scalar tag style text =>
    let name := match tag with
      | some (.variant name) =>
        if style == Yaml.Style.plain && (text.isEmpty || Yaml.isNullWord text) then some name else none
      | _ => some text
    match name.bind exactFormat? with
    | some f => return f
    | none => failure
  | _ => failure

/-- Takes a setting of the machine section. -/
def takeMachine (l : Layer) (entry : String × Yaml.Node) : Read Layer := do
  match entry.1 with
  | "definition" => return { l with definition := ← fill l.definition (← entry.2.text) }
  | _ => return l

/-- Takes a setting of the script section. -/
def takeScript (l : Layer) (entry : String × Yaml.Node) : Read Layer := do
  match entry.1 with
  | "path" =>
    return { l with script := ← fill l.script (← (← entry.2.optional).mapM Yaml.Node.text) }
  | "builtin" => return { l with builtin := ← fill l.builtin (← entry.2.bool) }
  | "stop_on_error" => return { l with stopOnError := ← fill l.stopOnError (← entry.2.bool) }
  | _ => return l

/-- Takes a setting of the output section. -/
def takeOutput (l : Layer) (entry : String × Yaml.Node) : Read Layer := do
  match entry.1 with
  | "format" => return { l with format := ← fill l.format (← readFormat entry.2) }
  | "show_context" => return { l with showContext := ← fill l.showContext (← entry.2.bool) }
  | _ => return l

/-- Takes a section; `seen` holds the names of those before it. -/
def takeSection (acc : List String × Layer) (entry : String × Yaml.Node) :
    Read (List String × Layer) := do
  let (seen, l) := acc
  let (name, n) := entry
  let take? : Option (Layer → String × Yaml.Node → Read Layer) :=
    match name with
    | "machine" => some takeMachine
    | "script" => some takeScript
    | "output" => some takeOutput
    | _ => none
  match take? with
  | none => return (seen, l)
  | some take =>
    if name ∈ seen then failure
    else
      let fields ← n.fields
      return (name :: seen, ← fields.foldlM take l)

/-- Reads a layer of settings from a node. -/
def Layer.ofYaml (n : Yaml.Node) : Read Layer := do
  let fields ← n.fields
  return (← fields.foldlM takeSection ([], {})).2

/-- Reads a layer of settings from a settings file. -/
def Layer.parse? (text : String) : Option Layer := Yaml.read? text Layer.ofYaml

/-- A truth value as it is written. -/
def writeBool (b : Bool) : String := if b then " true\n" else " false\n"

/-- The settings file that holds exactly these settings. -/
def toYaml (s : Settings) : String :=
  let path := match s.script with
    | some p => Yaml.writeString 4 p
    | none => " null\n"
  let format := match s.format with
    | .text => " text\n"
    | .json => " json\n"
  "machine:\n  definition:" ++ Yaml.writeString 4 s.definition ++ "script:\n  path:" ++ path ++
    "  builtin:" ++ writeBool s.builtin ++ "  stop_on_error:" ++ writeBool s.stopOnError ++
    "output:\n  format:" ++ format ++ "  show_context:" ++ writeBool s.showContext

/-- The layer of a settings file. -/
def Layer.ofFile (diag : Diagnostics) (files : Files) (name : String) : Except Error Layer :=
  match files name with
  | .error fault => .error (.file name fault)
  | .ok text =>
    match Layer.parse? text with
    | some l => .ok l
    | none => .error (.malformed name (diag.settings text))

/-- The settings of a file over the defaults. -/
def ofFile (diag : Diagnostics) (files : Files) (name : String) : Except Error Settings :=
  (Layer.ofFile diag files name).map fun l => l.over {}

/-- The settings of the environment over those of the file it names, if any, over the defaults. Only
the outcome has to be complete. -/
def load (diag : Diagnostics) (env : Environment) (files : Files) : Except Error Settings := do
  let file ← match env "SUBSTATE_CONFIG" with
    | some name => Layer.ofFile diag files name
    | none => .ok {}
  let s := (Layer.ofEnvironment env).over (file.over {})
  s.validate
  return s

end Statechart.Settings
