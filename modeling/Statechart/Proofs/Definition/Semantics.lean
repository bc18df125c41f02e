import Statechart.Proofs.Definition.Names
import Statechart.Interpreter
import Mathlib.Data.List.Infix
/-!
What a definition means, by names alone. The state is the list of ids from the root down to a node
without children. An event is handled by the longest prefix of the list whose node declares a target
for it; the state that follows is the one that the target names, with initial children entered below
it. Nothing here knows about positions, and targets are read anew each time.
-/

namespace Statechart

/-! ## Entering nodes -/

namespace Node

mutual

/-- The ids from an initial child to its initial child and so on, down to a node without one. -/
def entry : Node → List String
  | mk none _ _ => []
  | mk (some id) states _ => entryAmong id states

/-- The id of one of some children, and what is entered below that child. -/
def entryAmong (id : String) : List (String × Node) → List String
  | [] => []
  | (id', n) :: rest => if id = id' then id :: n.entry else entryAmong id rest

end

theorem entryAmong_eq (id : String) (states : List (String × Node)) :
    entryAmong id states = ((Table.find? id states).map fun c => id :: c.entry).getD [] := by
  induction states with
  | nil => rw [entryAmong, Table.find?]; rfl
  | cons c rest ih =>
    obtain ⟨id', n⟩ := c
    rw [entryAmong, Table.find?]
    by_cases h : id = id'
    · rw [if_pos h, if_pos h]
      rfl
    · rw [if_neg h, if_neg h, ih]

namespace Sound

variable {n c : Node} {id : String}

/-- Nothing is entered below a node without children. -/
theorem entry_eq_nil (h : n.Sound) (hstates : n.states = []) : n.entry = [] := by
  have hinitial : n.initial = none := by
    rw [← Option.not_isSome_iff_eq_none, h.initial_iff]
    exact not_not_intro hstates
  cases n with
  | mk initial states on =>
    rw [initial_mk] at hinitial
    rw [hinitial, entry]

theorem entry_eq_cons (h : n.Sound) (hid : n.initial = some id) (hc : (id, c) ∈ n.states) :
    n.entry = id :: c.entry := by
  have hfind := Table.find?_of_mem h.distinct hc
  cases n with
  | mk initial states on =>
    rw [initial_mk] at hid
    rw [states_mk] at hfind
    rw [hid, entry, entryAmong_eq, hfind]
    rfl

end Sound

end Node

namespace Definition

/-- The ids that are active once the node at `ids` has been entered. -/
def entered (d : Definition) (ids : List String) : List String :=
  ids ++ ((d.node? ⟨ids⟩).map Node.entry).getD []

/-! ## Handling events -/

/-- The target that the node at `ids` declares for an event. -/
def targetAt? (d : Definition) (event : String) (ids : List String) : Option String :=
  (d.node? ⟨ids⟩).bind fun n => n.on.get? event

/-- The longest prefix of some ids whose node declares a target for an event, and that target. -/
def handler? (d : Definition) (event : String) (ids : List String) :
    Option (List String × String) :=
  ids.inits.reverse.findSome? fun front =>
    (d.targetAt? event front).map fun target => (front, target)

/-- The record of an event in a state. -/
def step (d : Definition) (ids : List String) (event : Event) : Step :=
  match d.handler? event.type ids with
  | none =>
    { source := ⟨ids⟩, destination := ⟨ids⟩, event, handledBy := none, handled := false }
  | some (front, target) =>
    { source := ⟨ids⟩
      destination := ⟨d.entered (d.targetOf front target)⟩
      event
      handledBy := some ⟨front⟩
      handled := true }

/-- The records of events that follow each other. -/
def run (d : Definition) : List String → List Event → List Step
  | _, [] => []
  | ids, event :: rest =>
    d.step ids event :: run d (d.step ids event).destination.segments rest

/-- The node that a text names: a full path, with or without a leading `#`, or a path from below the
root. A full path wins. -/
def named? (d : Definition) (path : String) : Option (List String) :=
  let ids := splitDots (stripHash path)
  if (d.node? ⟨ids⟩).isSome then some ids
  else if (d.node? ⟨d.id :: ids⟩).isSome then some (d.id :: ids)
  else none

variable {d : Definition}

/-- A longer list is searched at its end first. -/
theorem handler?_concat (event : String) (ids : List String) (id : String) :
    d.handler? event (ids ++ [id]) =
      match d.targetAt? event (ids ++ [id]) with
      | some target => some (ids ++ [id], target)
      | none => d.handler? event ids := by
  have hinits : (ids ++ [id]).inits = ids.inits ++ [ids ++ [id]] := by
    rw [List.inits_append]
    rfl
  rw [handler?, hinits, List.reverse_append]
  show List.findSome? _ ((ids ++ [id]) :: ids.inits.reverse) = _
  rw [List.findSome?_cons]
  cases d.targetAt? event (ids ++ [id]) <;> rfl

end Definition

end Statechart
