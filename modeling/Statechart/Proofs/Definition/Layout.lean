import Statechart.Proofs.Definition.Check
import Statechart.Machine.State
import Mathlib.Data.List.Induction
/-!
The layout of a definition: its nodes in document order, a node before its children and these before
the next sibling. Every node gets the position at which it stands, the root position zero. Main
statements: the layout has as many slots as the tree has nodes, the slots are exactly the nodes
placed by their parents, and different slots have different paths.
-/

namespace Statechart

/-- A node of the tree at its position. -/
structure Slot where
  id : String
  path : StatePath
  parent : Option Nat
  kind : Kind
  node : Node

namespace Node

/-- The positions of child states, the first of them at `next`, with their ids. -/
def positions (next : Nat) : List (String × Node) → List (String × Nat)
  | [] => []
  | (id, n) :: rest => (id, next) :: positions (next + n.size) rest

/-- The kind of a node whose first child stands at `next`. -/
def kindAt (next : Nat) (n : Node) : Kind :=
  let ps := positions next n.states
  match n.initial.bind fun id => Table.find? id ps with
  | some initial => .compound initial (ps.map Prod.snd)
  | none => .atomic

/-- The slot of a node at a position. -/
def slot (position : Nat) (path : StatePath) (parent : Option Nat) (id : String) (n : Node) :
    Slot :=
  ⟨id, path, parent, n.kindAt (position + 1), n⟩

mutual

/-- The slots of a tree whose root stands at `position`. -/
def layout (position : Nat) (path : StatePath) (parent : Option Nat) (id : String) :
    Node → List Slot
  | mk initial states on =>
    slot position path parent id (mk initial states on) ::
      layoutStates (position + 1) path position states

/-- The slots of child states, the first of them at `next`. -/
def layoutStates (next : Nat) (path : StatePath) (parent : Nat) :
    List (String × Node) → List Slot
  | [] => []
  | (id, n) :: rest =>
    layout next (path.child id) (some parent) id n ++
      layoutStates (next + n.size) path parent rest

end

theorem layout_eq (position : Nat) (path : StatePath) (parent : Option Nat) (id : String)
    (n : Node) : n.layout position path parent id =
      n.slot position path parent id :: layoutStates (position + 1) path position n.states := by
  cases n
  rw [layout, states_mk]

mutual

@[simp]
theorem length_layout : ∀ (n : Node) (position : Nat) (path : StatePath) (parent : Option Nat)
    (id : String), (n.layout position path parent id).length = n.size
  | mk initial states on, position, path, parent, id => by
    simp [layout, size, length_layoutStates states, Nat.add_comm]

@[simp]
theorem length_layoutStates : ∀ (states : List (String × Node)) (next : Nat) (path : StatePath)
    (parent : Nat), (layoutStates next path parent states).length = sizeStates states
  | [], _, _, _ => rfl
  | (id, n) :: rest, next, path, parent => by
    simp [layoutStates, sizeStates, length_layout n, length_layoutStates rest]

end

theorem size_pos (n : Node) : 0 < n.size := by
  cases n
  rw [size]
  omega

theorem sizeStates_append (before after : List (String × Node)) :
    sizeStates (before ++ after) = sizeStates before + sizeStates after := by
  induction before with
  | nil => rw [List.nil_append, sizeStates, Nat.zero_add]
  | cons c rest ih =>
    rw [List.cons_append, sizeStates, sizeStates, ih]
    omega

theorem layoutStates_append (before after : List (String × Node)) (next : Nat) (path : StatePath)
    (parent : Nat) : layoutStates next path parent (before ++ after) =
      layoutStates next path parent before ++
        layoutStates (next + sizeStates before) path parent after := by
  induction before generalizing next with
  | nil => rfl
  | cons c rest ih =>
    rw [List.cons_append, layoutStates, layoutStates, ih, sizeStates, List.append_assoc,
      Nat.add_assoc]

/-! ## Positions of siblings -/

theorem map_fst_positions (next : Nat) (states : List (String × Node)) :
    (positions next states).map Prod.fst = states.map Prod.fst := by
  induction states generalizing next with
  | nil => rfl
  | cons c rest ih => rw [positions, List.map_cons, List.map_cons, ih]

/-- A child stands behind the trees of the siblings before it. -/
theorem mem_positions_iff {next q : Nat} {states : List (String × Node)} {id : String} :
    (id, q) ∈ positions next states ↔
      ∃ before c after, states = before ++ (id, c) :: after ∧ q = next + sizeStates before := by
  induction states generalizing next with
  | nil => simp [positions]
  | cons c rest ih =>
    obtain ⟨id', n⟩ := c
    rw [positions, List.mem_cons, ih]
    constructor
    · intro hor
      rcases hor with heq | ⟨before, c, after, rfl, rfl⟩
      · cases heq
        exact ⟨[], n, rest, rfl, rfl⟩
      · refine ⟨(id', n) :: before, c, after, rfl, ?_⟩
        rw [sizeStates, Nat.add_assoc]
    · intro hexists
      obtain ⟨before, c, after, heq, rfl⟩ := hexists
      -- nothing before the child, or the first sibling and the rest of what is before it
      cases before with
      | nil =>
        cases heq
        exact .inl rfl
      | cons c' before =>
        cases heq
        refine .inr ⟨before, c, after, rfl, ?_⟩
        rw [sizeStates, Nat.add_assoc]

/-- Later siblings stand at higher positions. -/
theorem pairwise_positions (next : Nat) (states : List (String × Node)) :
    ((positions next states).map Prod.snd).Pairwise (· < ·) ∧
      ∀ q ∈ (positions next states).map Prod.snd, next ≤ q := by
  induction states generalizing next with
  | nil => simp [positions]
  | cons c rest ih =>
    obtain ⟨hpairwise, hle⟩ := ih (next + c.2.size)
    have hpos := c.2.size_pos
    rw [positions, List.map_cons, List.pairwise_cons]
    refine ⟨⟨?_, hpairwise⟩, ?_⟩
    · intro q hq
      have := hle q hq
      omega
    · intro q hq
      rcases List.mem_cons.mp hq with rfl | hq
      · exact Nat.le_refl _
      · have := hle q hq
        omega

/-! ## Kinds -/

theorem kindAt_of_states_nil {n : Node} (h : n.states = []) (next : Nat) :
    n.kindAt next = .atomic := by
  rw [kindAt, h]
  cases n.initial <;> rfl

/-- A sound node with children is compound: it knows the positions of all of them, and which one
has the declared id. -/
theorem Sound.kindAt {n : Node} (h : n.Sound) (hne : n.states ≠ []) (next : Nat) :
    ∃ id c, n.initial = some id ∧ (id, c) ∈ positions next n.states ∧
      n.kindAt next = .compound c ((positions next n.states).map Prod.snd) := by
  obtain ⟨id, hid⟩ := Option.isSome_iff_exists.mp (h.initial_iff.mpr hne)
  have hmem : id ∈ (positions next n.states).map Prod.fst := by
    rw [map_fst_positions]
    exact h.initial_mem id hid
  cases hfind : Table.find? id (positions next n.states) with
  | none => exact absurd hmem (Table.find?_eq_none_iff.mp hfind)
  | some c =>
    refine ⟨id, c, hid, Table.mem_of_find? hfind, ?_⟩
    rw [Node.kindAt, hid, Option.bind_some, hfind]

theorem Sound.kindAt_eq_atomic_iff {n : Node} (h : n.Sound) {next : Nat} :
    n.kindAt next = .atomic ↔ n.states = [] := by
  constructor
  · intro hatomic
    by_contra hne
    obtain ⟨id, c, -, -, hcompound⟩ := h.kindAt hne next
    rw [hatomic] at hcompound
    cases hcompound
  · intro hstates
    exact kindAt_of_states_nil hstates next

end Node

/-- The slots of a definition. -/
def Definition.layout (d : Definition) : List Slot := d.root.layout 0 d.rootPath none d.id

theorem Definition.length_layout (d : Definition) : d.layout.length = d.root.size :=
  Node.length_layout ..

/-! ## Parts of a layout -/

/-- Some slots stand one after the other in a list, from a position on. -/
def SlotsAt (slots : List Slot) (position : Nat) (part : List Slot) : Prop :=
  ∀ i, i < part.length → slots[position + i]? = part[i]?

namespace SlotsAt

variable {slots part part' : List Slot} {position : Nat} {s : Slot}

theorem left (h : SlotsAt slots position (part ++ part')) : SlotsAt slots position part := by
  intro i hi
  rw [h i (by rw [List.length_append]; omega), List.getElem?_append_left hi]

theorem right (h : SlotsAt slots position (part ++ part')) :
    SlotsAt slots (position + part.length) part' := by
  intro i hi
  have hall := h (part.length + i) (by rw [List.length_append]; omega)
  rw [Nat.add_assoc, hall, List.getElem?_append_right (by omega), Nat.add_sub_cancel_left]

theorem head (h : SlotsAt slots position (s :: part)) : slots[position]? = some s := by
  have := h 0 (by rw [List.length_cons]; omega)
  rwa [Nat.add_zero, List.getElem?_cons_zero] at this

theorem tail (h : SlotsAt slots position (s :: part)) : SlotsAt slots (position + 1) part := by
  have hsplit : SlotsAt slots position ([s] ++ part) := h
  exact hsplit.right

end SlotsAt

namespace Definition

/-- A slot is placed at a position: the root at zero, and a child behind its parent and the trees of
the siblings before it. -/
inductive Placed (d : Definition) : Nat → Slot → Prop
  | root : Placed d 0 (d.root.slot 0 d.rootPath none d.id)
  | child {q : Nat} {s : Slot} {before after : List (String × Node)} {id : String} {c : Node} :
    Placed d q s → s.node.states = before ++ (id, c) :: after →
    Placed d (q + 1 + Node.sizeStates before)
      (c.slot (q + 1 + Node.sizeStates before) (s.path.child id) (some q) id)

variable {d : Definition}

theorem Placed.eq_slot {q : Nat} {s : Slot} (h : d.Placed q s) :
    s = s.node.slot q s.path s.parent s.id := by
  cases h <;> rfl

/-- The layout holds the whole tree of a placed slot from the position of that slot on. -/
theorem Placed.slotsAt {q : Nat} {s : Slot} (h : d.Placed q s) :
    SlotsAt d.layout q (s.node.layout q s.path s.parent s.id) := by
  induction h with
  | root =>
    intro i hi
    rw [Nat.zero_add]
    rfl
  | @child q s before after id c _ hstates ih =>
    rw [Node.layout_eq, hstates, Node.layoutStates_append, Node.layoutStates] at ih
    have hchild := ih.tail.right.left
    rwa [Node.length_layoutStates] at hchild

theorem Placed.getElem? {q : Nat} {s : Slot} (h : d.Placed q s) : d.layout[q]? = some s := by
  have hat := h.slotsAt
  rw [Node.layout_eq, ← h.eq_slot] at hat
  exact hat.head

mutual

/-- Below a placed node every slot is placed. -/
theorem placed_of_getElem?_layout : ∀ (n : Node) (q : Nat) (path : StatePath) (parent : Option Nat)
    (id : String), d.Placed q (n.slot q path parent id) → ∀ (i : Nat) (s : Slot),
    (n.layout q path parent id)[i]? = some s → d.Placed (q + i) s
  | .mk initial states on, q, path, parent, id, h, i, s, hs => by
    rw [Node.layout] at hs
    -- the slot of the node itself, or one among those of its children
    cases i with
    | zero =>
      rw [List.getElem?_cons_zero] at hs
      cases hs
      exact h
    | succ i =>
      rw [List.getElem?_cons_succ] at hs
      have := placed_of_getElem?_layoutStates states [] q _ h rfl i s hs
      rwa [Node.sizeStates, Nat.add_zero, Nat.add_right_comm] at this

theorem placed_of_getElem?_layoutStates : ∀ (states before : List (String × Node)) (q : Nat)
    (t : Slot), d.Placed q t → t.node.states = before ++ states → ∀ (i : Nat) (s : Slot),
    (Node.layoutStates (q + 1 + Node.sizeStates before) t.path q states)[i]? = some s →
      d.Placed (q + 1 + Node.sizeStates before + i) s
  | [], _, _, _, _, _, _, _, hs => by cases hs
  | (id, n) :: rest, before, q, t, h, hstates, i, s, hs => by
    rw [Node.layoutStates] at hs
    -- the slot belongs to the tree of the first child, or to one of the siblings behind it
    by_cases hi : i < n.size
    · rw [List.getElem?_append_left (by rwa [Node.length_layout])] at hs
      exact placed_of_getElem?_layout n _ _ _ id (.child h hstates) i s hs
    · rw [List.getElem?_append_right (by rw [Node.length_layout]; omega), Node.length_layout] at hs
      have hsize : Node.sizeStates (before ++ [(id, n)]) = Node.sizeStates before + n.size := by
        rw [Node.sizeStates_append, Node.sizeStates, Node.sizeStates, Nat.add_zero]
      have hrest := placed_of_getElem?_layoutStates rest (before ++ [(id, n)]) q t h
        (by rw [hstates, List.append_assoc]; rfl) (i - n.size) s
        (by rw [hsize, ← Nat.add_assoc]; exact hs)
      rwa [hsize, show q + 1 + (Node.sizeStates before + n.size) + (i - n.size)
        = q + 1 + Node.sizeStates before + i by omega] at hrest

end

/-- The slots of a layout are the placed ones. -/
theorem getElem?_layout_iff {q : Nat} {s : Slot} : d.layout[q]? = some s ↔ d.Placed q s := by
  constructor
  · intro h
    have := placed_of_getElem?_layout d.root 0 d.rootPath none d.id .root q s h
    rwa [Nat.zero_add] at this
  · exact Placed.getElem?

namespace Placed

variable {q q' : Nat} {s s' : Slot}

theorem unique (h : d.Placed q s) (h' : d.Placed q s') : s = s' :=
  Option.some.inj (h.getElem?.symm.trans h'.getElem?)

theorem lt_size (h : d.Placed q s) : q < d.root.size := by
  rw [← d.length_layout]
  exact (List.getElem?_eq_some_iff.mp h.getElem?).1

/-- The path of a slot is a chain of ids that reaches its node, and ends in its own id. -/
theorem reaches (h : d.Placed q s) :
    d.Reaches s.path.segments s.node ∧ s.path.segments.getLast? = some s.id := by
  induction h with
  | root => exact ⟨d.reaches_root, rfl⟩
  | child _ hstates ih =>
    refine ⟨ih.1.snoc ?_, List.getLast?_concat⟩
    rw [hstates]
    exact List.mem_append_right _ List.mem_cons_self

/-- A slot is the root, or stands behind the slot of its parent. -/
theorem parent_cases (h : d.Placed q s) :
    (q = 0 ∧ s.parent = none ∧ s.id = d.id ∧ s.path = d.rootPath ∧ s.node = d.root) ∨
      ∃ p t, d.Placed p t ∧ s.parent = some p ∧ p < q ∧ s.path = t.path.child s.id ∧
        (s.id, s.node) ∈ t.node.states ∧ (s.id, q) ∈ Node.positions (p + 1) t.node.states := by
  cases h with
  | root => exact .inl ⟨rfl, rfl, rfl, rfl, rfl⟩
  | @child p t before after id c hparent hstates =>
    refine .inr ⟨p, t, hparent, rfl, by omega, rfl, ?_, ?_⟩
    · rw [hstates]
      exact List.mem_append_right _ List.mem_cons_self
    · exact Node.mem_positions_iff.mpr ⟨before, c, after, hstates, rfl⟩

/-- What stands at the position of a child is that child. -/
theorem child_of_mem_positions (h : d.Placed q s) {id : String} {p : Nat}
    (hp : (id, p) ∈ Node.positions (q + 1) s.node.states) :
    ∃ c, d.Placed p c ∧ c.id = id ∧ c.parent = some q ∧ c.path = s.path.child id ∧
      (id, c.node) ∈ s.node.states := by
  obtain ⟨before, c, after, hstates, rfl⟩ := Node.mem_positions_iff.mp hp
  refine ⟨_, .child h hstates, rfl, rfl, rfl, ?_⟩
  rw [hstates]
  exact List.mem_append_right _ List.mem_cons_self

end Placed

/-- Every node that a chain of ids reaches has a slot with that path. -/
theorem Reaches.placed {ids : List String} {n : Node} (h : d.Reaches ids n) :
    ∃ q s, d.Placed q s ∧ s.path = ⟨ids⟩ ∧ s.node = n := by
  -- the chain is taken apart at its end, where the last node was placed by the one before it
  induction ids using List.reverseRecOn generalizing n with
  | nil => exact absurd rfl h.ne_nil
  | append_singleton ids id ih =>
    by_cases hne : ids = []
    · subst hne
      obtain ⟨rfl, rfl⟩ := h.eq_root
      exact ⟨0, _, .root, rfl, rfl⟩
    · obtain ⟨m, hm, hmem⟩ := h.of_snoc hne
      obtain ⟨q, t, ht, hpath, rfl⟩ := ih hm
      obtain ⟨before, after, hstates⟩ := List.append_of_mem hmem
      refine ⟨_, _, .child ht hstates, ?_, rfl⟩
      show t.path.child id = _
      rw [hpath]
      rfl

/-- The path of a child is longer than the path of the root. -/
theorem Placed.child_ne_rootPath {q : Nat} {s : Slot} (h : d.Placed q s) (id : String) :
    s.path.child id ≠ d.rootPath := by
  intro heq
  have hsegments : s.path.segments ++ [id] = [d.id] := congrArg StatePath.segments heq
  have hlen := congrArg List.length hsegments
  rw [List.length_append, List.length_singleton, List.length_singleton] at hlen
  have hpos := List.length_pos_iff.mpr h.reaches.1.ne_nil
  omega

/-- In a well-shaped definition a path has a text if and only if its ids are the pieces of it. -/
theorem Placed.display_eq_iff (hd : d.Shaped) {q : Nat} {s : Slot} (h : d.Placed q s)
    {text : String} : s.path.display = text ↔ s.path.segments = splitDots text := by
  constructor
  · intro hdisplay
    rw [← hdisplay, StatePath.display, splitDots_intercalate _ h.reaches.1.ne_nil]
    exact fun id hid => (hd.validId h.reaches.1 id hid).2.1
  · intro hsegments
    rw [StatePath.display, hsegments, intercalate_splitDots]

/-- In a well-shaped definition the text of a path says what the path is. -/
theorem Placed.path_eq_of_display (hd : d.Shaped) {q q' : Nat} {s s' : Slot} (h : d.Placed q s)
    (h' : d.Placed q' s') (hdisplay : s.path.display = s'.path.display) : s.path = s'.path := by
  have hsegments := (h.display_eq_iff hd).mp hdisplay
  have hsegments' := (h'.display_eq_iff hd).mp rfl
  exact StatePath.ext (hsegments.trans hsegments'.symm)

/-- In a well-shaped definition different slots have different paths. -/
theorem Placed.position_unique (hd : d.Shaped) {q q' : Nat} {s s' : Slot} (h : d.Placed q s)
    (h' : d.Placed q' s') (hpath : s.path = s'.path) : q = q' := by
  induction h generalizing q' s' with
  | root =>
    rcases h'.parent_cases with ⟨hq, -⟩ | ⟨p, t, ht, -, -, hchild, -⟩
    · exact hq.symm
    · exact absurd (hchild.symm.trans hpath.symm) (ht.child_ne_rootPath _)
  | @child p t before after id c ht hstates ih =>
    rcases h'.parent_cases with ⟨-, -, -, hroot, -⟩ | ⟨p', t', ht', -, -, hchild, -, hq'⟩
    · exact absurd (hpath.trans hroot) (ht.child_ne_rootPath _)
    · -- the paths of the parents are equal, and so are the last ids
      have hsegments : t.path.segments ++ [id] = t'.path.segments ++ [s'.id] :=
        congrArg StatePath.segments (hpath.trans hchild)
      obtain ⟨hparent, hid⟩ := List.append_inj' hsegments rfl
      cases hid
      have hp : p = p' := ih ht' (StatePath.ext hparent)
      subst hp
      have hslot := ht.unique ht'
      subst hslot
      -- both positions are those of the child with one id, and siblings have different ids
      have hnd : ((Node.positions (p + 1) t.node.states).map Prod.fst).Nodup := by
        rw [Node.map_fst_positions]
        exact (hd.sound ht.reaches.1).distinct
      have hq : (s'.id, p + 1 + Node.sizeStates before) ∈ Node.positions (p + 1) t.node.states :=
        Node.mem_positions_iff.mpr ⟨before, c, after, hstates, rfl⟩
      have heq := (Table.find?_of_mem hnd hq).symm.trans (Table.find?_of_mem hnd hq')
      exact Option.some.inj heq

end Definition

end Statechart
