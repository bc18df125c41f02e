import Statechart.Proofs.Machine.Built
/-!
The states of a machine as a flat copy of the tree of its definition. The listing of the tree is
defined without positions: a node, then the trees of its children one after the other. Main
statement: in a built machine the state at a position is the node at that place of the listing, its
links to its parent and its children are those of the tree, and the index tells the states by the
texts of their paths.
-/

namespace Statechart

/-! ## The listing -/

namespace Node

mutual

/-- The nodes of a tree with their paths, a node before its children. -/
def preorder (path : StatePath) : Node → List (StatePath × Node)
  | mk initial states on => (path, mk initial states on) :: preorderStates path states

def preorderStates (path : StatePath) : List (String × Node) → List (StatePath × Node)
  | [] => []
  | (id, n) :: rest => n.preorder (path.child id) ++ preorderStates path rest

end

mutual

/-- The slots of a tree are its listing, whatever their positions. -/
theorem map_layout : ∀ (n : Node) (position : Nat) (path : StatePath) (parent : Option Nat)
    (id : String),
    (n.layout position path parent id).map (fun s => (s.path, s.node)) = n.preorder path
  | mk initial states on, position, path, parent, id => by
    rw [layout, preorder, List.map_cons, map_layoutStates states]
    rfl

theorem map_layoutStates : ∀ (states : List (String × Node)) (next : Nat) (path : StatePath)
    (parent : Nat),
    (layoutStates next path parent states).map (fun s => (s.path, s.node)) =
      preorderStates path states
  | [], _, _, _ => rfl
  | (id, n) :: rest, next, path, parent => by
    rw [layoutStates, preorderStates, List.map_append, map_layout n, map_layoutStates rest]

end

end Node

namespace Definition

/-- The nodes of a definition in document order, with their paths. -/
def preorder (d : Definition) : List (StatePath × Node) := d.root.preorder d.rootPath

theorem length_preorder (d : Definition) : d.preorder.length = d.root.size := by
  rw [preorder, ← Node.map_layout d.root 0 d.rootPath none d.id, List.length_map,
    Node.length_layout]

theorem getElem?_preorder_iff {d : Definition} {q : Nat} {p : StatePath} {n : Node} :
    d.preorder[q]? = some (p, n) ↔ ∃ s, d.Placed q s ∧ s.path = p ∧ s.node = n := by
  rw [preorder, ← Node.map_layout d.root 0 d.rootPath none d.id, List.getElem?_map]
  show (d.layout[q]?).map _ = _ ↔ _
  simp only [Option.map_eq_some_iff, getElem?_layout_iff, Prod.mk.injEq]

end Definition

/-! ## Children -/

namespace Machine

/-- The state `t` at a position stands for the node `n` whose path is `p`. -/
structure StandsFor (m : Machine) (q : Nat) (t : State) (p : StatePath) (n : Node) : Prop where
  path : t.path = p
  id : p.segments.getLast? = some t.id
  /-- Below the root the parent stands before the state, and its path leads to it. -/
  parent : 0 < q → ∃ j u, t.parent = some j ∧ j < q ∧ m.state? j = some u ∧
    t.path = u.path.child t.id
  atomic : t.kind = .atomic ↔ n.states = []
  /-- The children are the states that have this one as their parent. -/
  children_iff : ∀ j, j ∈ t.children ↔ ∃ u, m.state? j = some u ∧ u.parent = some q
  /-- They stand in document order. -/
  children_sorted : t.children.Pairwise (· < ·)
  children_ids : t.children.map (fun j => (m.state? j).map State.id) =
    n.states.map fun c => some c.1
  distinct : (n.states.map Prod.fst).Nodup
  /-- The initial child is the one with the declared id. -/
  initial : n.states ≠ [] → ∃ c ∈ t.children, t.initial = some c ∧
    ∀ j ∈ t.children, (m.state? j).map State.id = n.initial ↔ j = c

/-- The states of a machine are the nodes of a definition in document order. -/
structure Flattens (m : Machine) (d : Definition) : Prop where
  size : m.size = d.root.size
  length : d.preorder.length = d.root.size
  root : ∃ t, m.state? 0 = some t ∧ t.parent = none ∧ t.path = ⟨[d.id]⟩
  states : ∀ q p n, d.preorder[q]? = some (p, n) → ∃ t, m.state? q = some t ∧ m.StandsFor q t p n
  /-- Different states have paths with different texts. -/
  display : ∀ q q' t t', m.state? q = some t → m.state? q' = some t' → q ≠ q' →
    t.path.display ≠ t'.path.display
  index : ∀ text q, m.index? text = some q ↔ ∃ t, m.state? q = some t ∧ t.path.display = text

namespace Realizes

variable {m : Machine} {d : Definition} {q : Nat} {s : Slot} {t : State}

/-- The children of a state are the positions of the children of its node. -/
theorem children_eq (h : m.Realizes d) (hs : d.Placed q s) (ht : Fills t s) :
    t.children = (Node.positions (q + 1) s.node.states).map Prod.snd := by
  by_cases hstates : s.node.states = []
  · rw [State.children, ht.kind_eq_atomic hs hstates, hstates]
    rfl
  · obtain ⟨id, c, -, -, hcompound⟩ := (h.shaped.sound hs.reaches.1).kindAt hstates (q + 1)
    rw [State.children, ht.kind_eq_kindAt hs, hcompound]

theorem mem_children_iff (h : m.Realizes d) (hs : d.Placed q s) (ht : Fills t s) {j : Nat} :
    j ∈ t.children ↔ ∃ u, m.state? j = some u ∧ u.parent = some q := by
  rw [h.children_eq hs ht, List.mem_map]
  constructor
  · intro hexists
    obtain ⟨⟨id, j⟩, hj, rfl⟩ := hexists
    obtain ⟨c, hc, -, hparent, -⟩ := hs.child_of_mem_positions hj
    obtain ⟨u, hu, hfills⟩ := h.state_of_placed hc
    exact ⟨u, hu, hfills.parent.trans hparent⟩
  · intro hexists
    obtain ⟨u, hu, hparent⟩ := hexists
    obtain ⟨c, hc, hfills⟩ := h.placed_of_state hu
    rw [hfills.parent] at hparent
    rcases hc.parent_cases with ⟨-, hnone, -⟩ | ⟨p, scope, hscope, hsome, -, -, -, hj⟩
    · rw [hnone] at hparent
      cases hparent
    · rw [hsome, Option.some.injEq] at hparent
      subst hparent
      -- the slot of its parent is the one at hand
      rw [hscope.unique hs] at hj
      exact ⟨(c.id, j), hj, rfl⟩

/-- The state at the position of a child has the id of the child. -/
theorem id_of_mem_positions (h : m.Realizes d) (hs : d.Placed q s) {id : String} {j : Nat}
    (hj : (id, j) ∈ Node.positions (q + 1) s.node.states) :
    (m.state? j).map State.id = some id := by
  obtain ⟨c, hc, hid, -⟩ := hs.child_of_mem_positions hj
  obtain ⟨u, hu, hfills⟩ := h.state_of_placed hc
  rw [hu, Option.map_some, hfills.id, hid]

theorem map_id_children (h : m.Realizes d) (hs : d.Placed q s) (ht : Fills t s) :
    t.children.map (fun j => (m.state? j).map State.id) =
      s.node.states.map fun c => some c.1 := by
  calc
    t.children.map (fun j => (m.state? j).map State.id)
    _ = (Node.positions (q + 1) s.node.states).map fun e => (m.state? e.2).map State.id := by
      rw [h.children_eq hs ht, List.map_map]
      rfl
    _ = (Node.positions (q + 1) s.node.states).map fun e => some e.1 :=
      List.map_congr_left fun e he => h.id_of_mem_positions hs he
    _ = ((Node.positions (q + 1) s.node.states).map Prod.fst).map some := by
      rw [List.map_map]
      rfl
    _ = s.node.states.map fun c => some c.1 := by
      rw [Node.map_fst_positions, List.map_map]
      rfl

/-- The initial child of a compound state is its only child with the declared id. -/
theorem initial_child (h : m.Realizes d) (hs : d.Placed q s) (ht : Fills t s)
    (hstates : s.node.states ≠ []) :
    ∃ c ∈ t.children, t.initial = some c ∧
      ∀ j ∈ t.children, (m.state? j).map State.id = s.node.initial ↔ j = c := by
  have hsound := h.shaped.sound hs.reaches.1
  obtain ⟨id, c, hid, hc, hcompound⟩ := hsound.kindAt hstates (q + 1)
  have hnd : ((Node.positions (q + 1) s.node.states).map Prod.fst).Nodup := by
    rw [Node.map_fst_positions]
    exact hsound.distinct
  refine ⟨c, ?_, ?_, ?_⟩
  · rw [h.children_eq hs ht]
    exact List.mem_map.mpr ⟨(id, c), hc, rfl⟩
  · rw [State.initial, ht.kind_eq_kindAt hs, hcompound]
  · intro j hj
    rw [h.children_eq hs ht] at hj
    obtain ⟨⟨id', j⟩, hpos, rfl⟩ := List.mem_map.mp hj
    rw [h.id_of_mem_positions hs hpos, hid, Option.some.injEq]
    -- siblings have different ids, so an id and a position say the same
    constructor
    · intro heq
      subst heq
      exact Option.some.inj ((Table.find?_of_mem hnd hpos).symm.trans (Table.find?_of_mem hnd hc))
    · intro heq
      subst heq
      have hids := (h.id_of_mem_positions hs hpos).symm.trans (h.id_of_mem_positions hs hc)
      exact Option.some.inj hids

theorem standsFor (h : m.Realizes d) (hs : d.Placed q s) (ht : Fills t s) :
    m.StandsFor q t s.path s.node where
  path := ht.path
  id := by rw [hs.reaches.2, ht.id]
  parent := by
    intro hq
    rcases hs.parent_cases with ⟨rfl, -⟩ | ⟨p, scope, hscope, hparent, hlt, hpath, -⟩
    · exact absurd hq (Nat.lt_irrefl 0)
    · obtain ⟨u, hu, hfills⟩ := h.state_of_placed hscope
      refine ⟨p, u, ht.parent.trans hparent, hlt, hu, ?_⟩
      rw [ht.path, ht.id, hfills.path, hpath]
  atomic := by
    rw [ht.kind_eq_kindAt hs]
    exact (h.shaped.sound hs.reaches.1).kindAt_eq_atomic_iff
  children_iff := fun _ => h.mem_children_iff hs ht
  children_sorted := by
    rw [h.children_eq hs ht]
    exact (Node.pairwise_positions _ _).1
  children_ids := h.map_id_children hs ht
  distinct := (h.shaped.sound hs.reaches.1).distinct
  initial := h.initial_child hs ht

end Realizes

/-- A built machine holds the nodes of its definition in document order. -/
theorem flattens_of_ofDefinition {m : Machine} {d : Definition} (h : ofDefinition d = .ok m) :
    m.Flattens d := by
  have hm := realizes_of_ofDefinition h
  refine ⟨hm.size_eq, d.length_preorder, ?_, ?_, ?_, ?_⟩
  · obtain ⟨t, ht, hfills⟩ := hm.state_of_placed .root
    exact ⟨t, ht, hfills.parent, hfills.path⟩
  · intro q p n hq
    obtain ⟨s, hs, rfl, rfl⟩ := Definition.getElem?_preorder_iff.mp hq
    obtain ⟨t, ht, hfills⟩ := hm.state_of_placed hs
    exact ⟨t, ht, hm.standsFor hs hfills⟩
  · intro q q' t t' ht ht' hne hdisplay
    obtain ⟨s, hs, hfills⟩ := hm.placed_of_state ht
    obtain ⟨s', hs', hfills'⟩ := hm.placed_of_state ht'
    rw [hfills.path, hfills'.path] at hdisplay
    exact hne (hs.position_unique hm.shaped hs' (hs.path_eq_of_display hm.shaped hs' hdisplay))
  · intro text q
    rw [hm.index]
    constructor
    · intro hexists
      obtain ⟨s, hs, hdisplay⟩ := hexists
      obtain ⟨t, ht, hfills⟩ := hm.state_of_placed hs
      exact ⟨t, ht, by rw [hfills.path, hdisplay]⟩
    · intro hexists
      obtain ⟨t, ht, hdisplay⟩ := hexists
      obtain ⟨s, hs, hfills⟩ := hm.placed_of_state ht
      exact ⟨s, hs, by rw [← hfills.path, hdisplay]⟩

theorem flattens_order : ofDefinition .order = .ok .order ∧ order.Flattens .order :=
  ⟨ofDefinition_order, flattens_of_ofDefinition ofDefinition_order⟩

end Machine

end Statechart
