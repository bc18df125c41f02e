import Statechart.Json.Value
/-!
Documents: what a text says before repeated keys are folded. A document keeps every entry of an
object in its place, so that a reader of states can see an id that is declared twice. Main
statement: the document of a value folds back to the value.
-/

namespace Statechart.Json

/-- The key of an entry. In JSON every key is a text; other formats have keys that name a field by
its position, and keys that name nothing. -/
inductive Key
  | text (name : String)
  | position (n : Nat)
  | other
deriving DecidableEq

/-- A document. An `unreadable` leaf is well formed but has no value (a number out of range, a string
with half a surrogate pair); a `nonFinite` leaf is an infinity or not a number. -/
inductive Document
  | null
  | bool (b : Bool)
  | number (n : Number)
  | string (s : String)
  | unreadable
  | nonFinite
  | array (items : List Document)
  | object (entries : List (Key × Document))
deriving Inhabited

namespace Document

mutual

/-- Every leaf has a value, and at most `levels` arrays and objects stand inside each other. -/
def readable : Nat → Document → Bool
  | _, .unreadable => false
  | 0, .array _ => false
  | 0, .object _ => false
  | levels + 1, .array items => readableItems levels items
  | levels + 1, .object entries => readableEntries levels entries
  | _, _ => true

def readableItems : Nat → List Document → Bool
  | _, [] => true
  | levels, d :: rest => d.readable levels && readableItems levels rest

def readableEntries : Nat → List (Key × Document) → Bool
  | _, [] => true
  | levels, (_, d) :: rest => d.readable levels && readableEntries levels rest

end

mutual

/-- The value of a document: repeated keys are folded, what is not finite becomes null. None if a leaf
has no value or a key is not a text. -/
def fold? : Document → Option Value
  | .null => some .null
  | .bool b => some (.bool b)
  | .number n => some (.number n)
  | .string s => some (.string s)
  | .unreadable => none
  | .nonFinite => some .null
  | .array items => (foldItems? items).map .array
  | .object entries => (foldEntries? entries).map fun ms => .object (foldMembers ms)

def foldItems? : List Document → Option (List Value)
  | [] => some []
  | d :: rest => do
    let v ← d.fold?
    let vs ← foldItems? rest
    return v :: vs

def foldEntries? : List (Key × Document) → Option (List (String × Value))
  | [] => some []
  | (.text name, d) :: rest => do
    let v ← d.fold?
    let vs ← foldEntries? rest
    return (name, v) :: vs
  | _ :: _ => none

end

mutual

/-- The document that spells out a value. -/
def ofValue : Value → Document
  | .null => .null
  | .bool b => .bool b
  | .number n => .number n
  | .string s => .string s
  | .array items => .array (ofItems items)
  | .object members => .object (ofMembers members)

def ofItems : List Value → List Document
  | [] => []
  | v :: rest => ofValue v :: ofItems rest

def ofMembers : List (String × Value) → List (Key × Document)
  | [] => []
  | (name, v) :: rest => (.text name, ofValue v) :: ofMembers rest

end

mutual

/-- A value whose objects have no repeated names is the folding of its document. -/
theorem fold?_ofValue : ∀ {v : Value}, v.Distinct → (ofValue v).fold? = some v
  | .null, _ | .bool _, _ | .number _, _ | .string _, _ => rfl
  | .array items, h => by
    have hi : Value.DistinctItems items := h
    simp [ofValue, fold?, foldItems?_ofItems hi]
  | .object members, h => by
    have hm : Value.DistinctMembers members := h.2
    simp [ofValue, fold?, foldEntries?_ofMembers hm, foldMembers_of_nodup h.1]

theorem foldItems?_ofItems : ∀ {items : List Value}, Value.DistinctItems items →
    foldItems? (ofItems items) = some items
  | [], _ => rfl
  | v :: rest, h => by
    simp [ofItems, foldItems?, fold?_ofValue h.1, foldItems?_ofItems h.2]

theorem foldEntries?_ofMembers : ∀ {members : List (String × Value)},
    Value.DistinctMembers members → foldEntries? (ofMembers members) = some members
  | [], _ => rfl
  | (_, v) :: rest, h => by
    simp [ofMembers, foldEntries?, fold?_ofValue h.1, foldEntries?_ofMembers h.2]

end

/-- The text of a string. -/
def text? : Document → Option String
  | .string s => some s
  | _ => none

/-- A field that may be left out: null stands for absence. -/
def optionalText? : Document → Option (Option String)
  | .null => some none
  | .string s => some (some s)
  | _ => none

end Document

end Statechart.Json
