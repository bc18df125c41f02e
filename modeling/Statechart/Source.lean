import Statechart.Definition.Yaml
import Statechart.Script.Yaml
import Statechart.Failure
import Statechart.Preset
/-!
Where machines and scripts come from: built-in ones by name, and files, whose extension tells the
format.
-/

namespace Statechart

/-- In front of the name of a built-in machine. -/
def builtinMark : String := "builtin:"

/-- The name of a built-in machine, if a source is one. -/
def builtinName? (source : String) : Option String :=
  if builtinMark.toList.isPrefixOf source.toList then
    some (String.ofList (source.toList.drop builtinMark.length))
  else none

/-- Reads a file. -/
def Files.read (files : Files) (name : String) : Except Failure String :=
  (files name).mapError (.file name)

namespace Machine

/-- The built-in machine of a given name. -/
def builtin (name : String) : Except Failure Machine :=
  match Preset.definitions.lookup name with
  | some d => (ofDefinition d).mapError .definition
  | none => .error (.unknownPreset name)

/-- The machine of a file: YAML behind the extensions `yaml` and `yml`, else JSON. -/
def ofFile (diag : Diagnostics) (files : Files) (name : String) : Except Failure Machine := do
  let text ← files.read name
  match extension? name with
  | some "yaml" | some "yml" =>
    match Definition.parseYaml? text with
    | some d => (ofDefinition d).mapError .definition
    | none => .error (.malformedYaml (diag.definitionYaml text))
  | _ => (parse diag text).mapError .definition

/-- The machine of a source: a built-in one or a file. -/
def load (diag : Diagnostics) (files : Files) (source : String) : Except Failure Machine :=
  match builtinName? source with
  | some name => builtin name
  | none => ofFile diag files source

end Machine

namespace Script

/-- The script of a file: JSON behind the extension `json`, else YAML. -/
def ofFile (diag : Diagnostics) (files : Files) (name : String) : Except Failure Script := do
  let text ← files.read name
  if extension? name == some "json" then
    match parse? text with
    | some s => .ok s
    | none => .error (.malformedJson (diag.script text))
  else
    match parseYaml? text with
    | some s => .ok s
    | none => .error (.malformedYaml (diag.scriptYaml text))

/-- The script of a file, or the reference script. -/
def load (diag : Diagnostics) (files : Files) : Option String → Except Failure Script
  | some name => ofFile diag files name
  | none => .ok Preset.reference

end Script

end Statechart
