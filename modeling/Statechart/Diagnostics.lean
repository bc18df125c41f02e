import Statechart.Json.Shape
/-!
What the parsers say of input that they refuse. Which input they refuse is settled by the readers of
this library; the words that they find for it are their own. Whatever reads input takes them as a
parameter, and the errors carry them.
-/

namespace Statechart

/-- The words of the parsers, for each kind of input that they read. -/
structure Diagnostics where
  /-- Of JSON text that is no definition. -/
  definition : String → String
  /-- Of a JSON value that is no definition. -/
  definitionValue : Json.Value → String
  /-- Of YAML text that is no definition. -/
  definitionYaml : String → String
  /-- Of JSON text that is no script. -/
  script : String → String
  /-- Of YAML text that is no script. -/
  scriptYaml : String → String
  /-- Of YAML text that is no settings file. -/
  settings : String → String
  /-- Of text that was typed as a context and is no JSON. -/
  context : String → String
  /-- Of a context that does not have the type it is read as. -/
  shape : Json.Shape → Json.Value → String
deriving Inhabited

end Statechart
