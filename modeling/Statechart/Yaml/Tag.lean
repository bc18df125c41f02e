/-!
Tags. A tag is written as bytes, since it may hold any byte in an escaped form. What it says about a
node depends on whether it is one of the types that every document knows, the name of a variant, or
neither.
-/

namespace Statechart.Yaml

/-- What a tag says about a node. -/
inductive Tag
  | bool
  | int
  | float
  | null
  /-- A tag of one's own, which names a variant. -/
  | variant (name : String)
  /-- A tag of one's own whose bytes are no text: it says nothing. -/
  | mute
  /-- Any other tag: a scalar under it is a string. -/
  | foreign
deriving DecidableEq, Repr

/-- The bytes of a text of ASCII characters. -/
def asciiBytes (cs : List Char) : List UInt8 := cs.map fun c => UInt8.ofNat c.toNat

/-- What is kept of written bytes: a zero byte and what stands behind it are dropped. -/
def keptBytes (bytes : List UInt8) : List UInt8 := bytes.takeWhile (· != 0)

/-- The exclamation mark, with which a tag of one's own begins. -/
def ownMark : UInt8 := 0x21

/-- What the tags of the types that every document knows begin with. -/
def knownStart : List UInt8 := asciiBytes "tag:yaml.org,2002:".toList

namespace Tag

/-- The types that every document knows. -/
def known : List (String × Tag) :=
  [("bool", bool), ("int", int), ("float", float), ("null", null)]

/-- What the bytes of a tag say. A tag of one's own is named by what stands behind its mark; the mark
alone names itself. -/
def ofBytes (bytes : List UInt8) : Tag :=
  if bytes.head? == some ownMark then
    let name := if bytes.tail.isEmpty then bytes else bytes.tail
    match String.fromUTF8? ⟨name.toArray⟩ with
    | some name => variant name
    | none => mute
  else
    ((known.find? fun (name, _) => bytes == knownStart ++ asciiBytes name.toList).map
      Prod.snd).getD foreign

end Tag

end Statechart.Yaml
