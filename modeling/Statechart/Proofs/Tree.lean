import Statechart.Tree
import Statechart.Proofs.Machine.Targets
import Statechart.Proofs.Machine.Entry
import Statechart.Proofs.Text.ByteOrder
/-!
The state tree as text, line by line. What is printed about a state says its depth and whether it is
the initial one among its siblings; both can be read off the machine without walking down to it. Main
statement: the walk from parents to children visits every state once, in the order of the positions,
so that the printed tree is a block of lines for each state, one after the other.
-/

namespace Statechart

/-- Texts that are joined group by group. -/
theorem Text.join_flatMap {α : Type} (xs : List α) (f : α → List String) :
    String.join (xs.flatMap f) = String.join (xs.map fun x => String.join (f x)) := by
  induction xs with
  | nil => rfl
  | cons x rest ih =>
    rw [List.flatMap_cons, String.join_append, ih, List.map_cons, String.join_cons]

namespace Machine

/-! ## One state -/

/-- A state is the initial one among its siblings: its parent says so. -/
def isInitialChild (m : Machine) (i : Nat) : Bool :=
  (((m.state? i).bind State.parent).bind m.state?).bind State.initial == some i

/-- What a target is called: its path from below the root. -/
def targetName (m : Machine) (t : Transition) : String :=
  ((m.state? t.node).map fun s => s.path.relative).getD ""

/-- The lines about a state: its id behind a mark, and below it a line for each transition. -/
def blockLines (m : Machine) (i : Nat) (s : State) : List String :=
  let margin := String.ofList (List.replicate (2 * (s.path.depth - 1)) ' ')
  (margin ++ (if m.isInitialChild i then "*" else " ") ++ s.id) ::
    s.transitions.entries.map fun e => margin ++ "    " ++ e.1 ++ " -> " ++ m.targetName e.2

/-- The block of the state at a position: its lines, each ended. -/
def block (m : Machine) (i : Nat) : String :=
  String.join ((((m.state? i).map (m.blockLines i)).getD []).map (· ++ "\n"))

/-- A state at a depth below the root is printed as its block. -/
theorem stateLines_eq_block {m : Machine} {i : Nat} {s : State} (hs : m.state? i = some s)
    {depth : Nat} (hdepth : s.path.depth = depth + 1) :
    m.stateLines s depth (m.isInitialChild i) = m.block i := by
  have hmargin : indentation depth =
      String.ofList (List.replicate (2 * (s.path.depth - 1)) ' ') := by
    rw [hdepth, Nat.add_sub_cancel]
    rfl
  rw [block, hs, Option.map_some, Option.getD_some, blockLines, ← hmargin, List.map_cons,
    String.join_cons, List.map_map]
  rfl

/-! ## The walk -/

/-- The positions that the walk from a state down to everything below it visits, in turn. -/
def visited (m : Machine) : Nat → Nat → List Nat
  | 0, _ => []
  | fuel + 1, i =>
    match m.state? i with
    | none => []
    | some s => i :: s.children.flatMap (visited m fuel)

end Machine

namespace Node

/-- Where every child takes the positions of its tree, the children of a node together take the
positions of all their trees. -/
theorem flatMap_positions {f : Nat → List Nat} {next : Nat} {states : List (String × Node)}
    (h : ∀ before id c after, states = before ++ (id, c) :: after →
      f (next + sizeStates before) = List.range' (next + sizeStates before) c.size) :
    ((positions next states).map Prod.snd).flatMap f = List.range' next (sizeStates states) := by
  induction states generalizing next with
  | nil => rfl
  | cons child rest ih =>
    obtain ⟨id, c⟩ := child
    have hfirst : f next = List.range' next c.size := h [] id c rest rfl
    have hrest : ((positions (next + c.size) rest).map Prod.snd).flatMap f =
        List.range' (next + c.size) (sizeStates rest) := by
      refine ih fun before id' c' after hsplit => ?_
      have hchild := h ((id, c) :: before) id' c' after (congrArg ((id, c) :: ·) hsplit)
      rwa [sizeStates, ← Nat.add_assoc] at hchild
    rw [positions, List.map_cons, List.flatMap_cons, hfirst, hrest, sizeStates,
      List.range'_append_1]

/-- The tree of a child is smaller than that of its parent. -/
theorem size_lt_of_states {n : Node} {before after : List (String × Node)} {id : String} {c : Node}
    (h : n.states = before ++ (id, c) :: after) : c.size < n.size := by
  obtain ⟨initial, states, on⟩ := n
  rw [states_mk] at h
  rw [h, size, sizeStates_append, sizeStates]
  omega

end Node

namespace Machine

namespace Realizes

variable {m : Machine} {d : Definition} {q : Nat} {s : Slot} {fuel : Nat}

/-- The walk visits the positions of a tree in order, each once; its fuel suffices if there is as much
as there are nodes. -/
theorem visited_eq (h : m.Realizes d) (hs : d.Placed q s) (hfuel : s.node.size ≤ fuel) :
    m.visited fuel q = List.range' q s.node.size := by
  induction fuel generalizing q s with
  | zero => exact absurd s.node.size_pos (by omega)
  | succ fuel ih =>
    obtain ⟨t, ht, hfills⟩ := h.state_of_placed hs
    have hchildren : t.children.flatMap (m.visited fuel) =
        List.range' (q + 1) (Node.sizeStates s.node.states) := by
      rw [h.children_eq hs hfills]
      refine Node.flatMap_positions fun before id c after hstates => ?_
      have hlt := Node.size_lt_of_states hstates
      exact ih (.child hs hstates) (show c.size ≤ fuel by omega)
    have hsize : s.node.size = Node.sizeStates s.node.states + 1 := by
      cases s.node
      rw [Node.size, Node.states_mk, Nat.add_comm]
    rw [visited, ht]
    show q :: t.children.flatMap (m.visited fuel) = _
    rw [hchildren, hsize, List.range'_succ]

/-- The text of a tree is the blocks of the states that the walk visits. -/
theorem treeFrom_eq (h : m.Realizes d) (hs : d.Placed q s) {depth : Nat}
    (hdepth : s.path.depth = depth + 1) :
    m.treeFrom fuel q depth (m.isInitialChild q) =
      String.join ((m.visited fuel q).map m.block) := by
  induction fuel generalizing q s depth with
  | zero => rfl
  | succ fuel ih =>
    obtain ⟨t, ht, hfills⟩ := h.state_of_placed hs
    -- a child is one level deeper, and is marked by its parent if it is the initial one
    have hchild : ∀ c ∈ t.children, m.treeFrom fuel c (depth + 1) (t.initial == some c) =
        String.join ((m.visited fuel c).map m.block) := by
      intro c hc
      rw [h.children_eq hs hfills] at hc
      obtain ⟨⟨id, c⟩, hpos, rfl⟩ := List.mem_map.mp hc
      obtain ⟨u, hu, -, hparent, hpath, -⟩ := hs.child_of_mem_positions hpos
      have hmark : m.isInitialChild c = (t.initial == some c) := by
        rw [isInitialChild, h.parent_of_placed hu, hparent, Option.bind_some, ht,
          Option.bind_some]
      have hbelow : u.path.depth = depth + 1 + 1 := by
        rw [← hdepth, hpath, StatePath.depth, StatePath.segments_child, List.length_append]
        rfl
      rw [← hmark, ih hu hbelow]
    have hblock : m.stateLines t depth (m.isInitialChild q) = m.block q :=
      stateLines_eq_block ht (hfills.path ▸ hdepth)
    rw [treeFrom, visited, ht]
    show m.stateLines t depth (m.isInitialChild q) ++ String.join (t.children.map _) =
      String.join ((q :: t.children.flatMap (m.visited fuel)).map m.block)
    rw [hblock, List.map_congr_left hchild, List.map_cons, String.join_cons, List.map_flatMap,
      Text.join_flatMap]

end Realizes

/-! ## The whole tree -/

/-- The printed tree is the blocks of all states in the order of their positions, without the blanks
at the end: the walk visits every state once. The transitions of a block stand in the order of the
bytes of their events, and every target that is named is there. -/
theorem tree_lists_states {d : Definition} {m : Machine} (h : ofDefinition d = .ok m) :
    let text := m.treeFrom (m.size + 1) root 0 false
    m.tree = Text.trimEnd text ∧
      m.visited (m.size + 1) root = List.range m.size ∧
      text = String.join ((List.range m.size).map m.block) ∧
      ∀ i < m.size, ∃ s, m.state? i = some s ∧
        s.transitions.keys.Pairwise (fun e e' => Text.bytes e < Text.bytes e') ∧
        ∀ e ∈ s.transitions.entries, ∃ t, m.state? e.2.node = some t ∧
          m.targetName e.2 = t.path.relative := by
  intro text
  have hm := realizes_of_ofDefinition h
  have hvisited : m.visited (m.size + 1) root = List.range m.size := by
    have hsize : d.root.size ≤ m.size + 1 := by
      rw [hm.size_eq]
      exact Nat.le_succ _
    have hall : m.visited (m.size + 1) root = List.range' 0 d.root.size :=
      hm.visited_eq .root hsize
    rw [hall, hm.size_eq, List.range_eq_range']
  have htext : text = String.join ((m.visited (m.size + 1) root).map m.block) := by
    have hunmarked : m.isInitialChild root = false := by
      have hparent : (m.state? root).bind State.parent = none := hm.parent_of_placed .root
      rw [isInitialChild, hparent]
      rfl
    have hroot : m.treeFrom (m.size + 1) root 0 (m.isInitialChild root) = _ :=
      hm.treeFrom_eq .root rfl
    rwa [hunmarked] at hroot
  refine ⟨rfl, hvisited, hvisited ▸ htext, ?_⟩
  intro i hi
  have hs : m.state? i = some m.states[i] := Array.getElem?_eq_getElem hi
  refine ⟨m.states[i], hs, m.states[i].transitions.pairwise_bytes_keys, ?_⟩
  intro e he
  obtain ⟨slot, hslot, -⟩ := hm.placed_of_state hs
  obtain ⟨-, -, -, u, hu, -⟩ := hm.exists_target_of_get? hslot hs (Table.get?_eq_some_iff.mpr he)
  obtain ⟨t, ht, -⟩ := hm.state_of_placed hu
  refine ⟨t, ht, ?_⟩
  rw [targetName, ht]
  rfl

/-- The tree of an order: each state with its depth, its mark and its transitions. -/
theorem tree_lists_states_order :
    ofDefinition .order = .ok .order ∧
      order.treeFrom (order.size + 1) root 0 false =
        String.join ((List.range 8).map order.block) ∧
      order.block 2 = "   active\n      CANCEL -> closed\n" ∧
      order.block 3 =
        "    *processing\n        REFUND -> closed.refunded\n        SHIP -> active.shipped\n" := by
  obtain ⟨-, -, htext, -⟩ := tree_lists_states ofDefinition_order
  have hsize : order.size = 8 := by decide +kernel
  rw [hsize] at htext ⊢
  refine ⟨ofDefinition_order, htext, ?_, ?_⟩ <;> decide +kernel

end Machine

end Statechart
