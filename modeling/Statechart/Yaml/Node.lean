import Statechart.Yaml.Token
/-!
YAML nodes: the tree that the tokens of one document describe. Anchors get numbers in the order in
which they appear: the number of an anchor is how many different names there were before it, so a
name that is used again shares its number with the next new name, and an alias means the node that
took its number last.
-/

namespace Statechart.Yaml

/-- A node of a document. -/
inductive Node
  | scalar (tag : Option Tag) (style : Style) (text : String)
  | sequence (tag : Option Tag) (items : List Node)
  | mapping (tag : Option Tag) (entries : List (Node × Node))
  | alias (number : Nat)
deriving Inhabited

/-- A node with an anchor: the number of the anchor and where in the document the node begins. -/
structure Anchored where
  number : Nat
  position : Nat
  node : Node

/-- A document: its root, its anchored nodes, and the number of places where a node begins or ends. A
text that holds nothing has an empty scalar as its root. -/
structure Document where
  root : Node
  anchored : List Anchored
  places : Nat

/-- What is known while the nodes of a document are put together. -/
structure Composer where
  tokens : List Token
  handles : List (String × List UInt8) := []
  names : List (String × Nat) := []
  anchored : List Anchored := []
  places : Nat := 0

/-- A step in putting a document together; it may find that the tokens describe none. -/
abbrev Compose := StateT Composer Option

namespace Compose

/-- The token that stands first. -/
def peek : Compose Token := fun s => do
  let t ← s.tokens.head?
  return (t, s)

/-- Passes over the token that stands first. -/
def skip : Compose Unit := fun s => some ((), { s with tokens := s.tokens.tail })

/-- Counts a place and gives its position. -/
def mark : Compose Nat := fun s => some (s.places, { s with places := s.places + 1 })

/-- Takes a token if it is the given one. -/
def accept (t : Token) : Compose Bool := do
  if (← peek) == t then
    skip
    return true
  else return false

/-- Takes a token that has to be there. -/
def require (t : Token) : Compose Unit := do
  if ← accept t then return () else failure

/-- One of the given tokens stands first. -/
def atAny (ts : List Token) : Compose Bool := do
  return ts.contains (← peek)

/-- The tag of a handle and a suffix. -/
def resolveTag (handle : String) (suffix : List UInt8) : Compose Tag := do
  if handle.isEmpty then return .ofBytes suffix
  else
    match ((← get).handles).lookup handle with
    | some start => return .ofBytes (start ++ suffix)
    | none => failure

/-- The anchor and the tag in front of a node, in either order. -/
def properties : Compose (Option String × Option Tag) := do
  let anchor? : Compose (Option String) := do
    match ← peek with
    | .anchor name =>
      skip
      return some name
    | _ => return none
  let tag? : Compose (Option (String × List UInt8)) := do
    match ← peek with
    | .tag handle suffix =>
      skip
      return some (handle, suffix)
    | _ => return none
  let (anchor, tag) ← do
    match ← anchor? with
    | some a => pure (some a, ← tag?)
    | none =>
      match ← tag? with
      | some t => pure (← anchor?, some t)
      | none => pure (none, none)
  let tag ← match tag with
    | some (handle, suffix) => some <$> resolveTag handle suffix
    | none => pure none
  return (anchor, tag)

/-- Gives an anchor its number. -/
def number (anchor : Option String) : Compose (Option Nat) := do
  match anchor with
  | none => return none
  | some name =>
    let s ← get
    let n := s.names.length
    set { s with names := (name, n) :: s.names.filter fun e => e.1 != name }
    return some n

/-- Remembers an anchored node. -/
def remember (number : Option Nat) (position : Nat) (node : Node) : Compose Node := do
  match number with
  | none => return node
  | some n =>
    modify fun s => { s with anchored := ⟨n, position, node⟩ :: s.anchored }
    return node

/-- The empty scalar that stands where a node is left out. -/
def omitted : Compose Node := do
  let _ ← mark
  return .scalar none .plain ""

mutual

/-- A node. Blocks are allowed where `block` holds, and a sequence that is not indented where
`indentless` holds. -/
def node : Nat → Bool → Bool → Compose Node
  | 0, _, _ => failure
  | fuel + 1, block, indentless => do
    match ← peek with
    | .alias name =>
      match ((← get).names).lookup name with
      | some n =>
        skip
        let _ ← mark
        return .alias n
      | none => failure
    | _ =>
      let (anchor, tag) ← properties
      let n ← number anchor
      let position ← mark
      let close (node : Node) : Compose Node := do
        let _ ← mark
        remember n position node
      match ← peek with
      | .blockEntry =>
        if indentless then close (.sequence tag (← indentlessItems fuel))
        else if anchor.isSome || tag.isSome then remember n position (.scalar tag .plain "")
        else failure
      | .scalar text style =>
        skip
        remember n position (.scalar tag style text)
      | .flowSequenceStart =>
        skip
        close (.sequence tag (← flowItems fuel true))
      | .flowMappingStart =>
        skip
        close (.mapping tag (← flowEntries fuel true))
      | t =>
        if block && t == .blockSequenceStart then
          skip
          close (.sequence tag (← blockItems fuel))
        else if block && t == .blockMappingStart then
          skip
          close (.mapping tag (← blockEntries fuel))
        else if anchor.isSome || tag.isSome then remember n position (.scalar tag .plain "")
        else failure

/-- A node, or nothing in front of one of the given tokens. -/
def nodeUnless : Nat → List Token → Bool → Bool → Compose Node
  | 0, _, _, _ => failure
  | fuel + 1, ts, block, indentless => do
    if ← atAny ts then omitted else node fuel block indentless

/-- The items of a block sequence, up to its end. -/
def blockItems : Nat → Compose (List Node)
  | 0 => failure
  | fuel + 1 => do
    match ← peek with
    | .blockEntry =>
      skip
      let item ← nodeUnless fuel [.blockEntry, .blockEnd] true false
      return item :: (← blockItems fuel)
    | .blockEnd =>
      skip
      return []
    | _ => failure

/-- The items of a sequence that is not indented; it ends in front of any other token. -/
def indentlessItems : Nat → Compose (List Node)
  | 0 => failure
  | fuel + 1 => do
    match ← peek with
    | .blockEntry =>
      skip
      let item ← nodeUnless fuel [.blockEntry, .key, .value, .blockEnd] true false
      return item :: (← indentlessItems fuel)
    | _ => return []

/-- The entries of a block mapping, up to its end. -/
def blockEntries : Nat → Compose (List (Node × Node))
  | 0 => failure
  | fuel + 1 => do
    match ← peek with
    | .key =>
      skip
      let k ← nodeUnless fuel [.key, .value, .blockEnd] true true
      let v ← if ← accept .value then nodeUnless fuel [.key, .value, .blockEnd] true true else omitted
      return (k, v) :: (← blockEntries fuel)
    | .blockEnd =>
      skip
      return []
    | _ => failure

/-- The items of a flow sequence, up to its end; a key in it is a mapping of one entry. -/
def flowItems : Nat → Bool → Compose (List Node)
  | 0, _ => failure
  | fuel + 1, first => do
    if ← accept .flowSequenceEnd then return []
    else
      if !first then require .flowEntry
      match ← peek with
      | .flowSequenceEnd =>
        skip
        return []
      | .key =>
        skip
        let _ ← mark
        let ends := [Token.value, .flowEntry, .flowSequenceEnd]
        let k ← if ← atAny ends then do
            skip
            omitted
          else node fuel false false
        let v ← if ← accept .value then nodeUnless fuel [.flowEntry, .flowSequenceEnd] false false
          else omitted
        let _ ← mark
        return .mapping none [(k, v)] :: (← flowItems fuel false)
      | _ =>
        let item ← node fuel false false
        return item :: (← flowItems fuel false)

/-- The entries of a flow mapping, up to its end. -/
def flowEntries : Nat → Bool → Compose (List (Node × Node))
  | 0, _ => failure
  | fuel + 1, first => do
    if ← accept .flowMappingEnd then return []
    else
      if !first then require .flowEntry
      match ← peek with
      | .flowMappingEnd =>
        skip
        return []
      | .key =>
        skip
        let k ← nodeUnless fuel [.value, .flowEntry, .flowMappingEnd] false false
        let v ← if ← accept .value then nodeUnless fuel [.flowEntry, .flowMappingEnd] false false
          else omitted
        return (k, v) :: (← flowEntries fuel false)
      | _ =>
        let k ← node fuel false false
        let v ← omitted
        return (k, v) :: (← flowEntries fuel false)

end

/-- The handles every document knows. -/
def defaultHandles : List (String × List UInt8) := [("!", [ownMark]), ("!!", knownStart)]

/-- The directives in front of a document: at most one version, which is 1.1 or 1.2, and one meaning
for every handle. -/
def directives : Nat → Bool → List (String × List UInt8) → Compose (List (String × List UInt8))
  | 0, _, _ => failure
  | fuel + 1, versioned, handles => do
    match ← peek with
    | .version major minor =>
      if versioned || major != 1 || (minor != 1 && minor != 2) then failure
      else
        skip
        directives fuel true handles
    | .tagDirective handle start =>
      if (handles.lookup handle).isSome then failure
      else
        skip
        directives fuel versioned (handles ++ [(handle, start)])
    | _ => return handles

/-- The start of a document that is marked as such. -/
def explicitRoot (fuel : Nat) : Compose Node := do
  let handles ← directives fuel false []
  modify fun s => { s with handles := handles ++ defaultHandles }
  require .documentStart
  match ← peek with
  | .version .. | .tagDirective .. | .documentStart | .documentEnd | .streamEnd => omitted
  | _ => node fuel true false

/-- Passes over the marks between documents. -/
def skipEnds : Nat → Compose Unit
  | 0 => return ()
  | fuel + 1 => do
    if ← accept .documentEnd then skipEnds fuel else return ()

/-- The only document of a text. -/
def document (fuel : Nat) : Compose Node := do
  match ← peek with
  | .streamEnd => omitted
  | first =>
    let root ← match first with
      | .version .. | .tagDirective .. | .documentStart => explicitRoot fuel
      | _ =>
        modify fun s => { s with handles := defaultHandles }
        node fuel true false
    skipEnds fuel
    require .streamEnd
    return root

end Compose

/-- The only document of a text; none where the text is not well formed or holds several. -/
def Document.parse? (text : String) : Option Document := do
  let tokens ← Token.list? text
  let (root, s) ← (Compose.document (3 * tokens.length + 3)).run { tokens }
  return ⟨root, s.anchored, s.places⟩

/-- The node that an anchor number means: of the nodes with that number the last one to begin. -/
def Document.target? (d : Document) (number : Nat) : Option Node :=
  ((d.anchored.filter fun a => a.number == number).foldl
    (fun best a => match best with
      | some b => if b.position < a.position then some a else some b
      | none => some a) none).map Anchored.node

end Statechart.Yaml
