import Statechart.Script
import Statechart.Yaml.Reading
/-!
Events and scripts in YAML. A script is a mapping; what stands in a field that it does not know is not
looked at.
-/

namespace Statechart

open Yaml (Read)

/-- Reads an event from a node. -/
def Event.ofYaml (levels : Nat) (n : Yaml.Node) : Read Event := do
  match Event.read? (← n.document false levels) with
  | some e => return e
  | none => failure

/-- Reads an event from YAML text. -/
def Event.parseYaml? (text : String) : Option Event :=
  Yaml.read? text (Event.ofYaml Yaml.maxLevels)

namespace Script

/-- Takes one entry of a script into its fields. -/
def takeEntry (levels : Nat) (f : Fields) (entry : String × Yaml.Node) : Read Fields := do
  let (name, n) := entry
  match name with
  | "start_at" =>
    let startAt ← (← n.optional).mapM Yaml.Node.text
    if f.startAt.isSome then failure else return { f with startAt := some startAt }
  | "context" =>
    let context ← (← n.optional).mapM (Yaml.Node.value levels)
    if f.context.isSome then failure else return { f with context := some context }
  | "events" =>
    let events ← (← n.items).mapM (Event.ofYaml (levels - 1))
    if f.events.isSome then failure else return { f with events := some events }
  | _ => return f

/-- Reads a script from a node. -/
def ofYaml (n : Yaml.Node) : Read Script := do
  let fields ← n.fields
  let f ← fields.foldlM (takeEntry (Yaml.maxLevels - 1)) {}
  return ofFields f

/-- Reads a script from YAML text. -/
def parseYaml? (text : String) : Option Script := Yaml.read? text ofYaml

end Script

end Statechart
