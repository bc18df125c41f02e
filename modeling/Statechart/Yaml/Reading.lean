import Statechart.Yaml.Node
import Statechart.Yaml.Resolved
import Statechart.Json.Document
/-!
Reading values from YAML nodes. An alias is followed to the node it means; a reader that follows too
many of them gives up, so that a small text cannot describe an enormous value. A node is read either
as one of the types below or as a JSON document.
-/

namespace Statechart.Yaml

open Json (Key)

/-- A reader: it knows the document, counts the aliases it has followed, and may fail. -/
abbrev Read := ReaderT Document (StateT Nat Option)

/-- How many sequences and mappings may stand inside each other. -/
def maxLevels : Nat := 128

/-- The tag names a variant. -/
def namesVariant : Option Tag → Bool
  | some (.variant _) => true
  | _ => false

/-- What a scalar means under its tag; none where the text does not fit the tag. -/
def meaning? (tag : Option Tag) (style : Style) (text : String) : Option Resolved :=
  match tag with
  | some .bool => (boolWord? text).map .bool
  | some .int => integerMeaning? text
  | some .float => float? text
  | some .null => if isNullWord text then some .null else none
  | some .foreign => some (.string text)
  | none | some .mute | some (.variant _) =>
    if style == .plain then some (resolve text) else some (.string text)

/-- The document of what a scalar means; an integer out of range has none. -/
def Resolved.document? : Resolved → Option Json.Document
  | .null => some .null
  | .bool b => some (.bool b)
  | .natural n h => some (.number (.ofNat n h))
  | .negative n h => some (.number (.integer (-n) (by omega)))
  | .huge => none
  | .double d => some (.number (.double d))
  | .nonFinite => some .nonFinite
  | .string s => some (.string s)

/-- The key that a scalar makes. -/
def Resolved.key : Resolved → Key
  | .string s => .text s
  | .natural n _ => .position n
  | _ => .other

namespace Node

/-- The node itself, or the one an alias means. The number of aliases that are followed is bounded by
the size of the document. -/
def follow (n : Node) : Read Node := do
  match n with
  | .alias number =>
    let d ← read
    let followed ← get
    if d.places * 100 ≤ followed then failure
    else
      set (followed + 1)
      match d.target? number with
      | some n => return n
      | none => failure
  | n => return n

/-- An empty plain scalar, which stands for a collection without members. -/
def isBlank : Node → Bool
  | .scalar _ .plain text => text.isEmpty
  | _ => false

/-- The text of a scalar, whatever it means. -/
def text (n : Node) : Read String := do
  match ← n.follow with
  | .scalar _ _ text => return text
  | _ => failure

/-- A node that may stand for nothing: none for an empty plain scalar and the words for null. -/
def optional (n : Node) : Read (Option Node) := do
  let n ← n.follow
  match n with
  | .scalar tag .plain text =>
    match tag with
    | some .null => if isNullWord text then return none else failure
    | some _ => return some n
    | none => if text.isEmpty || isNullWord text then return none else return some n
  | _ => return some n

/-- A truth value: a plain scalar, or a literal block with the tag for truth values. -/
def bool (n : Node) : Read Bool := do
  match ← n.follow with
  | .scalar tag style text =>
    if style == .plain || (style == .literal && tag == some .bool) then
      match boolWord? text with
      | some b => return b
      | none => failure
    else failure
  | _ => failure

/-- The items of a sequence. -/
def items (n : Node) : Read (List Node) := do
  match ← n.follow with
  | .sequence _ items => return items
  | n => if n.isBlank then return [] else failure

/-- The entries of a mapping. -/
def entries (n : Node) : Read (List (Node × Node)) := do
  match ← n.follow with
  | .mapping _ entries => return entries
  | n => if n.isBlank then return [] else failure

/-- The entries of a mapping whose keys are read as texts. -/
def fields (n : Node) : Read (List (String × Node)) := do
  (← n.entries).mapM fun (k, v) => return (← k.text, v)

/-- Reads a node as a document with at most `levels` collections inside each other. Keys are read as
texts where `textKeys` holds, and else keep what they mean. -/
def document (textKeys : Bool) : Nat → Node → Read Json.Document
  | levels, n => do
    match ← n.follow with
    | .scalar tag style text =>
      if namesVariant tag then failure
      else
        match (meaning? tag style text).bind Resolved.document? with
        | some d => return d
        | none => failure
    | .sequence tag items =>
      match levels with
      | 0 => failure
      | levels + 1 =>
        if namesVariant tag then failure else return .array (← items.mapM (document textKeys levels))
    | .mapping tag entries =>
      match levels with
      | 0 => failure
      | levels + 1 =>
        if namesVariant tag then failure
        else
          let entries ← entries.mapM fun (k, v) => do
            let key ←
              if textKeys then Key.text <$> k.text
              else do
                let k ← k.follow
                let _ ← document textKeys levels k
                match k with
                | .scalar tag style text =>
                  pure (((meaning? tag style text).map Resolved.key).getD .other)
                | _ => pure .other
            return (key, ← document textKeys levels v)
          return .object entries
    | .alias _ => failure

/-- Reads a node as a JSON value. -/
def value (levels : Nat) (n : Node) : Read Json.Value := do
  match (← n.document true levels).fold? with
  | some v => return v
  | none => failure

end Node

/-- Reads the only document of a text. -/
def read? {α : Type} (text : String) (reader : Node → Read α) : Option α := do
  let d ← Document.parse? text
  let (a, _) ← ((reader d.root).run d).run 0
  return a

end Statechart.Yaml
