import Statechart.Json.Document
/-!
State paths: the ids from the root down to a state. A path is shown with a dot between its segments,
and a text is read as a path if, after at most one leading `#`, no segment between its dots is empty.
Main statements: the view of each operation on the segments.
-/

namespace Statechart

/-- A full path, root id first. -/
@[ext]
structure StatePath where
  segments : List String
deriving DecidableEq, Repr, Inhabited

/-- A text without one leading `#`. -/
def stripHash (s : String) : String :=
  match s.toList with
  | '#' :: rest => String.ofList rest
  | _ => s

/-- The pieces of a text between its dots; there is always at least one. -/
def splitDots (s : String) : List String := (s.toList.splitOn '.').map String.ofList

namespace StatePath

/-- The segments with a dot between them. -/
def display (p : StatePath) : String := ".".intercalate p.segments

instance : ToString StatePath := ⟨display⟩

/-- Reads a path; one leading `#` is passed over. -/
def parse? (s : String) : Option StatePath :=
  let pieces := splitDots (stripHash s)
  if "" ∈ pieces then none else some ⟨pieces⟩

/-- The first segment. -/
def root (p : StatePath) : String := p.segments.head?.getD ""

/-- The last segment. -/
def leaf (p : StatePath) : String := p.segments.getLast?.getD ""

def depth (p : StatePath) : Nat := p.segments.length

/-- The text of the path without its first segment. -/
def relative (p : StatePath) : String := ".".intercalate p.segments.tail

/-- The path of a child. -/
def child (p : StatePath) (id : String) : StatePath := ⟨p.segments ++ [id]⟩

/-- The path lies at or below another one. -/
def startsWith (p q : StatePath) : Bool := q.segments.isPrefixOf p.segments

/-- The state value of a path: the last id below the root is a string, and each id above it an object
with a single member around what is below. The root alone gives the empty object. -/
def value (p : StatePath) : Json.Value :=
  match p.segments.tail.reverse with
  | [] => .object []
  | leaf :: above => above.foldl (fun inner id => .object [(id, inner)]) (.string leaf)

/-- A path is written as its text. -/
def toJson (p : StatePath) : Json.Value := .string p.display

/-- Reads a path from a string. -/
def read? (d : Json.Document) : Option StatePath := d.text?.bind parse?

/-- The segments from a place on, which must not lie behind the end. -/
def from? (p : StatePath) (start : Nat) : Option (List String) :=
  if start ≤ p.depth then some (p.segments.drop start) else none

/-- Whether this path lies within a position: the segments of the position lead in from the root, or
from just below it. There is no answer only where segments behind the end would be asked for. -/
def within? (p : StatePath) (position : String) : Option Bool :=
  match parse? position with
  | none => some false
  | some q =>
    if q.root = p.root ∧ p.startsWith q = true then some true
    else if q.depth < p.depth then (p.from? 1).map q.segments.isPrefixOf
    else some false

@[simp]
theorem segments_child (p : StatePath) (id : String) :
    (p.child id).segments = p.segments ++ [id] := rfl

theorem startsWith_iff {p q : StatePath} :
    p.startsWith q = true ↔ q.segments <+: p.segments := List.isPrefixOf_iff_prefix

end StatePath

/-- A transition target as it is written: the id of a sibling, or a full path. -/
inductive Target
  | relative (id : String)
  | absolute (path : StatePath)
deriving DecidableEq, Repr

namespace Target

/-- A target that starts with `#` or contains a dot is a full path. -/
def isAbsolute (s : String) : Bool := s.toList.head? == some '#' || s.toList.contains '.'

/-- Reads a target; none for the empty text and for a full path that does not parse. -/
def parse? (s : String) : Option Target :=
  if isAbsolute s then (StatePath.parse? s).map absolute
  else if s.isEmpty then none
  else some (relative s)

/-- Full paths are shown with a `#`. -/
def display : Target → String
  | relative id => id
  | absolute path => "#" ++ path.display

end Target

end Statechart
