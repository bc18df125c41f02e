import Statechart.StatePath
import Statechart.Table
/-!
Machine definitions as they are written: a tree of state nodes below a root with an id. Child states
keep the order and the repetitions of the document, so that checking can report an id that is
declared twice.
-/

namespace Statechart

/-- One state node: its initial child, its child states in document order, and the targets of its
transitions by event. -/
inductive Node
  | mk (initial : Option String) (states : List (String × Node)) (on : Table String)
deriving Inhabited

namespace Node

def initial : Node → Option String
  | mk initial _ _ => initial

/-- The child states with their ids. -/
def states : Node → List (String × Node)
  | mk _ states _ => states

/-- The target of each event. -/
def on : Node → Table String
  | mk _ _ on => on

/-- A state without children or transitions. -/
def atomic : Node := mk none [] Table.empty

/-- A state that enters the child `initial`. -/
def compound (initial : String) : Node := mk (some initial) [] Table.empty

/-- Adds a child state behind the others. -/
def withState (n : Node) (id : String) (child : Node) : Node :=
  mk n.initial (n.states ++ [(id, child)]) n.on

/-- Adds a transition; one that is there for the event is replaced. -/
def withTransition (n : Node) (event target : String) : Node :=
  mk n.initial n.states (n.on.insert event target)

mutual

/-- The number of nodes of a tree. -/
def size : Node → Nat
  | mk _ states _ => 1 + sizeStates states

def sizeStates : List (String × Node) → Nat
  | [] => 0
  | (_, n) :: rest => n.size + sizeStates rest

end

/-- The child with a given id, the first one if there are several. -/
def child? (n : Node) (id : String) : Option Node := Table.find? id n.states

/-- The node reached by a list of child ids. -/
def descend? (n : Node) : List String → Option Node
  | [] => some n
  | id :: rest => (n.child? id).bind fun c => c.descend? rest

@[simp]
theorem initial_mk (i : Option String) (s : List (String × Node)) (o : Table String) :
    (mk i s o).initial = i := rfl

@[simp]
theorem states_mk (i : Option String) (s : List (String × Node)) (o : Table String) :
    (mk i s o).states = s := rfl

@[simp]
theorem on_mk (i : Option String) (s : List (String × Node)) (o : Table String) :
    (mk i s o).on = o := rfl

end Node

/-- A definition: the id of the root state, the context a machine starts with by default, and the
root node. -/
structure Definition where
  id : String
  context : Option Json.Value
  root : Node
deriving Inhabited

namespace Definition

/-- The path of the root. -/
def rootPath (d : Definition) : StatePath := ⟨[d.id]⟩

/-- The node at a full path. -/
def node? (d : Definition) (p : StatePath) : Option Node :=
  match p.segments with
  | [] => none
  | id :: rest => if id = d.id then d.root.descend? rest else none

end Definition

end Statechart
