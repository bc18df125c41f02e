import Statechart.StatePath
import Statechart.Table
/-!
The states of a machine. States stand one after the other and refer to each other by position.
-/

namespace Statechart

/-- Whether a state has child states, with their positions in document order. -/
inductive Kind
  | atomic
  | compound (initial : Nat) (children : List Nat)
deriving DecidableEq, Repr

/-- A transition: its target as written and the position of the state it denotes. -/
structure Transition where
  target : Target
  node : Nat
deriving DecidableEq, Repr

/-- A state of a machine. -/
structure State where
  id : String
  path : StatePath
  parent : Option Nat
  kind : Kind
  transitions : Table Transition
deriving DecidableEq, Repr

namespace State

def isAtomic (s : State) : Bool :=
  match s.kind with
  | .atomic => true
  | .compound .. => false

/-- The position of the initial child. -/
def initial (s : State) : Option Nat :=
  match s.kind with
  | .atomic => none
  | .compound initial _ => some initial

/-- The positions of the children. -/
def children (s : State) : List Nat :=
  match s.kind with
  | .atomic => []
  | .compound _ children => children

end State

end Statechart
