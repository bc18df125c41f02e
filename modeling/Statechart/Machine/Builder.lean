import Statechart.Machine.State
import Statechart.Definition.Check
/-!
Building the states of a machine in two passes. The first pass walks the definition in document order:
a state takes the next free position and enters the index under the text of its path before its
children are visited, and becomes compound when all of them have their positions. Its transitions wait
until every state is there. The second pass resolves their targets through the index.
-/

namespace Statechart

/-- A transition whose target is not resolved yet. -/
structure Pending where
  node : Nat
  event : String
  target : String
deriving DecidableEq, Repr

/-- The states so far, their positions by the text of their paths, and the transitions that wait. -/
structure Builder where
  states : Array State
  index : Table Nat
  pending : List Pending

/-- What has been seen of the children of a state: their ids, newest first, their positions in
document order, and the position of the initial one. -/
structure Siblings where
  seen : List String
  children : List Nat
  initial : Option Nat

/-- Takes in the next child. -/
def Siblings.add (initial : String) (s : Siblings) (child : String × Nat) : Siblings where
  seen := child.1 :: s.seen
  children := s.children ++ [child.2]
  initial := if child.1 = initial then some child.2 else s.initial

namespace Builder

def empty : Builder := ⟨#[], .empty, []⟩

/-! ## First pass -/

/-- Gives the next position to a state, which is atomic for the time being. -/
def reserve (b : Builder) (id : String) (path : StatePath) (parent : Option Nat)
    (on : Table String) : Builder where
  states := b.states.push ⟨id, path, parent, .atomic, .empty⟩
  index := b.index.insert path.display b.states.size
  pending := b.pending ++ on.entries.map fun e => ⟨b.states.size, e.1, e.2⟩

/-- Changes the kind of the state at a position. -/
def setKind (b : Builder) (position : Nat) (kind : Kind) : Builder :=
  { b with states := b.states.modify position fun s => { s with kind } }

/-- Makes a state compound once its children are there. -/
def close (b : Builder) (position : Nat) (path : StatePath) (initial : String)
    (siblings : Siblings) : Except DefinitionError (Builder × Nat) :=
  match siblings.initial with
  | none => .error (.unknownInitial path.display initial)
  | some c => .ok (b.setKind position (.compound c siblings.children), position)

mutual

/-- Adds a state and everything below it; the state gets the position that was free. -/
def addNode (b : Builder) (id : String) (path : StatePath) (parent : Option Nat) :
    Node → Except DefinitionError (Builder × Nat)
  | .mk initial states on =>
    match checkId id with
    | .error e => .error e
    | .ok () =>
      let position := b.states.size
      let b := b.reserve id path parent on
      if states.isEmpty then
        match initial with
        | some i => .error (.initialWithoutChildren path.display i)
        | none => .ok (b, position)
      else
        match initial with
        | none => .error (.missingInitial path.display)
        | some i =>
          match addStates b path position i ⟨[], [], none⟩ states with
          | .error e => .error e
          | .ok (b, siblings) => b.close position path i siblings

/-- Adds the children of the state at `parent` behind those that are there. -/
def addStates (b : Builder) (path : StatePath) (parent : Nat) (initial : String)
    (siblings : Siblings) : List (String × Node) → Except DefinitionError (Builder × Siblings)
  | [] => .ok (b, siblings)
  | (id, n) :: rest =>
    if id ∈ siblings.seen then .error (.duplicateState path.display id)
    else
      match addNode b id (path.child id) (some parent) n with
      | .error e => .error e
      | .ok (b, position) =>
        addStates b path parent initial (siblings.add initial (id, position)) rest

end

/-! ## Second pass -/

/-- The position that a target denotes when the state `s` at `node` declares it. A full path is
looked up. A bare id names a sibling of the state or the state itself; at the root it names the root,
or else a child of the root. -/
def denoted? (b : Builder) (node : Nat) (s : State) : Target → Option Nat
  | .absolute p => b.index.get? p.display
  | .relative id =>
    match s.parent with
    | none => if s.id = id then some node else b.index.get? (s.path.child id).display
    | some parent =>
      (b.states[parent]?).bind fun scope => b.index.get? (scope.path.child id).display

/-- The transition to a written target. -/
def resolved? (b : Builder) (node : Nat) (s : State) (target : String) : Option Transition :=
  (Target.parse? target).bind fun t => (b.denoted? node s t).map (Transition.mk t)

/-- Resolves one transition and enters it into the table of its state. -/
def resolve (b : Builder) (p : Pending) : Except DefinitionError Builder :=
  match b.states[p.node]? with
  | none => .ok b -- no transition waits for a state that is not there
  | some s =>
    match b.resolved? p.node s p.target with
    | none => .error (.unresolvedTarget s.path.display p.event p.target)
    | some t =>
      .ok { b with
        states := b.states.modify p.node fun s =>
          { s with transitions := s.transitions.insert p.event t } }

/-- Resolves transitions in turn. -/
def resolveAll (b : Builder) : List Pending → Except DefinitionError Builder
  | [] => .ok b
  | p :: rest =>
    match b.resolve p with
    | .error e => .error e
    | .ok b => resolveAll b rest

end Builder

end Statechart
