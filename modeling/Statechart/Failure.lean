import Statechart.Interpreter
import Statechart.Files
/-!
Everything that can go wrong between a command and its output.
-/

namespace Statechart

/-- Why a machine or script cannot be loaded or run. -/
inductive Failure
  | file (name : String) (fault : FileFault)
  | interpreter (e : InterpreterError)
  | definition (e : DefinitionError)
  /-- A text is not of the expected form, for which the parser has the words. -/
  | malformedYaml (words : String)
  | malformedJson (words : String)
  | unknownPreset (name : String)
deriving DecidableEq, Repr

namespace Failure

/-- The stable code. -/
def code : Failure → String
  | file .. => "IO_ERROR"
  | interpreter e => e.code
  | definition e => e.code
  | malformedYaml _ => "INVALID_YAML"
  | malformedJson _ => "INVALID_JSON"
  | unknownPreset _ => "UNKNOWN_PRESET"

/-- The cause in words. -/
def message : Failure → String
  | file name fault => "I/O error reading '" ++ name ++ "': " ++ fault.message
  | interpreter e => "core error: " ++ e.message
  | definition e => "machine definition error: " ++ e.message
  | malformedYaml words => "YAML error: " ++ words
  | malformedJson words => "JSON error: " ++ words
  | unknownPreset name => "unknown preset: " ++ name

/-- The failure as a command shows it. -/
def describe (f : Failure) : String := "Error [" ++ f.code ++ "]: " ++ f.message

end Failure

end Statechart
