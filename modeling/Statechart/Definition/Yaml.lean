import Statechart.Definition.Format
import Statechart.Yaml.Reading
/-!
Definitions in YAML. The id may be any scalar and is taken as it is written; the context is a value
whose keys are texts; what belongs to the root node is read as a document.
-/

namespace Statechart.Definition

open Yaml (Read)

/-- Takes one entry of a definition into its header. -/
def takeEntry (levels : Nat) (h : Header) (entry : String × Yaml.Node) : Read Header := do
  let (name, n) := entry
  match name with
  | "id" | "key" =>
    let id ← n.text
    if h.id.isSome then failure else return { h with id := some id }
  | "context" =>
    let context ← (← n.optional).mapM (Yaml.Node.value levels)
    if h.context.isSome then failure else return { h with context := some context }
  | name =>
    let d ← n.document false levels
    return { h with rest := h.rest ++ [(.text name, d)] }

/-- Reads a definition from a node. -/
def ofYaml (n : Yaml.Node) : Read Definition := do
  let fields ← n.fields
  let h ← fields.foldlM (takeEntry (Yaml.maxLevels - 1)) {}
  match ofHeader? h with
  | some d => return d
  | none => failure

/-- Reads a definition from YAML text. -/
def parseYaml? (text : String) : Option Definition := Yaml.read? text ofYaml

end Statechart.Definition
