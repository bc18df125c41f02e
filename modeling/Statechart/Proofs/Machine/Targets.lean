import Statechart.Proofs.Machine.Preorder
/-!
Where the transitions of a machine lead. Targets are resolved through the texts of paths; what they
lead to can be said by the parents and the ids of the states alone. Main statement: a state has a
transition for exactly the events of its node, and each one leads to the only state that its target
names by the structure of the machine.
-/

namespace Statechart

namespace Definition

variable {d : Definition} {q j : Nat} {s scope : Slot} {id : String}

/-- The ids of a slot say whose child it is. -/
theorem Placed.segments_eq_concat_iff (hd : d.Shaped) (hs : d.Placed q s)
    (hscope : d.Placed j scope) :
    s.path.segments = scope.path.segments ++ [id] ↔ s.parent = some j ∧ s.id = id := by
  constructor
  · intro hsegments
    rcases hs.parent_cases with ⟨-, -, -, hpath, -⟩ | ⟨p, t, ht, hparent, -, hpath, -⟩
    · -- the path of the root is too short
      have hchild : scope.path.child id = d.rootPath := by
        rw [← hpath]
        exact StatePath.ext hsegments.symm
      exact absurd hchild (hscope.child_ne_rootPath id)
    · rw [hpath, StatePath.segments_child] at hsegments
      obtain ⟨hfront, hlast⟩ := List.append_inj' hsegments rfl
      have hp : p = j := ht.position_unique hd hscope (StatePath.ext hfront)
      cases hlast
      exact ⟨hp ▸ hparent, rfl⟩
  · intro hparts
    obtain ⟨hparent, hid⟩ := hparts
    rcases hs.parent_cases with ⟨-, hnone, -⟩ | ⟨p, t, ht, hsome, -, hpath, -⟩
    · rw [hnone] at hparent
      cases hparent
    · rw [hsome, Option.some.injEq] at hparent
      subst hparent
      rw [hpath, StatePath.segments_child, ht.unique hscope, hid]

end Definition

namespace Machine

/-- The one state with a property stands at a position. -/
def Sole (m : Machine) (P : State → Prop) (k : Nat) : Prop :=
  ∀ j, (∃ u, m.state? j = some u ∧ P u) ↔ j = k

/-- Where a target leads by the structure of the machine, when the state `t` at `q` declares it. A
full path leads to the state with these ids. A bare id leads to the child of the parent of `t` that
has it; at the root it leads to the root if it is the id of the root, also if a child has it too,
and to the child of the root with that id if it is not. -/
def Names (m : Machine) (q : Nat) (t : State) : Target → Nat → Prop
  | .absolute p, k => m.Sole (fun u => u.path.segments = p.segments) k
  | .relative id, k =>
    match t.parent with
    | some j => m.Sole (fun u => u.parent = some j ∧ u.id = id) k
    | none => if id = t.id then k = q else m.Sole (fun u => u.parent = some q ∧ u.id = id) k

/-- The transitions of the state `t` at `q` are those of the node `n`, resolved by structure. -/
structure Resolves (m : Machine) (q : Nat) (t : State) (n : Node) : Prop where
  keys : t.transitions.keys = n.on.keys
  target : ∀ event text, n.on.get? event = some text → ∃ tr, t.transitions.get? event = some tr ∧
    Target.parse? text = some tr.target ∧ m.Names q t tr.target tr.node
  /-- Its own id leads a state to itself. -/
  self : ∀ event tr, t.transitions.get? event = some tr → tr.target = .relative t.id → tr.node = q
  /-- Below the root any other id leads to a state with the same parent, which lies neither above
  nor below the state. -/
  sibling : ∀ event tr id u, t.transitions.get? event = some tr → tr.target = .relative id →
    t.parent ≠ none → id ≠ t.id → m.state? tr.node = some u →
      u.parent = t.parent ∧ t.path.startsWith u.path = false ∧ u.path.startsWith t.path = false

variable {m : Machine} {d : Definition} {q k : Nat} {s u : Slot} {t : State}

/-- The own id of a state names the state. -/
theorem eq_of_names_self (ht : m.state? q = some t) (h : m.Names q t (.relative t.id) k) :
    k = q := by
  cases hparent : t.parent with
  | none =>
    simp only [Names, hparent, if_true] at h
    exact h
  | some j =>
    simp only [Names, hparent] at h
    exact ((h q).mp ⟨t, ht, hparent, rfl⟩).symm

namespace Realizes

/-- A property that only the path of a slot decides is that of one state. -/
theorem sole (h : m.Realizes d) (hu : d.Placed k u) {P : State → Prop}
    (hP : ∀ j v x, d.Placed j v → Fills x v → (P x ↔ v.path = u.path)) : m.Sole P k := by
  intro j
  constructor
  · intro hexists
    obtain ⟨x, hx, hPx⟩ := hexists
    obtain ⟨v, hv, hfills⟩ := h.placed_of_state hx
    exact hv.position_unique h.shaped hu ((hP j v x hv hfills).mp hPx)
  · intro heq
    subst heq
    obtain ⟨x, hx, hfills⟩ := h.state_of_placed hu
    exact ⟨x, hx, (hP j u x hu hfills).mpr rfl⟩

theorem sole_path (h : m.Realizes d) (hu : d.Placed k u) {ids : List String}
    (hids : u.path.segments = ids) : m.Sole (fun x => x.path.segments = ids) k := by
  refine h.sole hu fun j v x _ hfills => ?_
  rw [hfills.path, ← hids]
  exact StatePath.ext_iff.symm

theorem sole_child (h : m.Realizes d) (hu : d.Placed k u) {j : Nat} {scope : Slot} {id : String}
    (hscope : d.Placed j scope) (hids : u.path.segments = scope.path.segments ++ [id]) :
    m.Sole (fun x => x.parent = some j ∧ x.id = id) k := by
  refine h.sole hu fun i v x hv hfills => ?_
  rw [hfills.parent, hfills.id, ← hv.segments_eq_concat_iff h.shaped hscope, ← hids]
  exact StatePath.ext_iff.symm

/-- What is in the table of a state was declared by its node and leads to the node named. -/
theorem exists_target_of_get? (h : m.Realizes d) (hs : d.Placed q s) (ht : m.state? q = some t)
    {event : String} {tr : Transition} (htr : t.transitions.get? event = some tr) :
    ∃ text, s.node.on.get? event = some text ∧ Target.parse? text = some tr.target ∧
      ∃ u, d.Placed tr.node u ∧ u.path.segments = d.targetOf s.path.segments text := by
  have hat : m.transitionAt event q = some tr := by rw [transitionAt, ht, Option.bind_some, htr]
  cases hon : s.node.on.get? event with
  | none =>
    rw [h.transition_none hs hon] at hat
    cases hat
  | some text =>
    obtain ⟨tr', htr', hparts⟩ := h.transition_some hs hon
    rw [hat, Option.some.injEq] at htr'
    subst htr'
    exact ⟨text, rfl, hparts⟩

theorem names (h : m.Realizes d) (hs : d.Placed q s) (hfills : Fills t s) {text : String}
    {target : Target} (hparse : Target.parse? text = some target) (hu : d.Placed k u)
    (hids : u.path.segments = d.targetOf s.path.segments text) : m.Names q t target k := by
  cases target with
  | absolute p =>
    obtain ⟨habs, hp⟩ := Target.parse?_eq_absolute_iff.mp hparse
    have hsegments : p.segments = splitDots (stripHash text) := by
      rw [(StatePath.parse?_eq_some_iff.mp hp).2]
    rw [Definition.targetOf_of_absolute habs, ← hsegments] at hids
    exact h.sole_path hu hids
  | relative id =>
    obtain ⟨hbare, -, rfl⟩ := Target.parse?_eq_relative_iff.mp hparse
    rcases hs.parent_cases with ⟨rfl, hnone, hid, hpath, -⟩ | ⟨p, scope, hscope, hsome, -, hpath, -⟩
    · have hroot : s.path.segments = [d.id] := by rw [hpath]; rfl
      rw [hroot, Definition.targetOf_root_of_bare hbare] at hids
      simp only [Names, hfills.parent, hnone, hfills.id, hid]
      by_cases heq : text = d.id
      · -- the id of the root leads back to the root
        rw [if_pos heq] at hids ⊢
        exact hu.position_unique h.shaped hs (StatePath.ext (hids.trans hroot.symm))
      · rw [if_neg heq] at hids ⊢
        refine h.sole_child hu hs ?_
        rw [hids, hroot]
        rfl
    · -- below the root the id is looked for among the siblings
      rw [hpath, StatePath.segments_child,
        Definition.targetOf_child_of_bare hbare hscope.reaches.1.ne_nil] at hids
      simp only [Names, hfills.parent, hsome]
      exact h.sole_child hu hscope hids

/-- Different children of one state lie neither above nor below each other. -/
theorem startsWith_of_siblings (h : m.Realizes d) {i j : Nat} {x : State} (ht : m.state? q = some t)
    (hx : m.state? i = some x) (hparent : t.parent = some j) (hparent' : x.parent = some j)
    (hid : x.id ≠ t.id) : t.path.startsWith x.path = false := by
  obtain ⟨s, hs, hfills⟩ := h.placed_of_state ht
  obtain ⟨v, hv, hfills'⟩ := h.placed_of_state hx
  rw [hfills.parent] at hparent
  rw [hfills'.parent] at hparent'
  rcases hs.parent_cases with ⟨-, hnone, -⟩ | ⟨p, scope, hscope, hsome, -⟩
  · rw [hnone] at hparent
    cases hparent
  rw [hsome, Option.some.injEq] at hparent
  subst hparent
  have hsegments := (hs.segments_eq_concat_iff h.shaped hscope).mpr ⟨hsome, rfl⟩
  have hsegments' := (hv.segments_eq_concat_iff h.shaped hscope).mpr ⟨hparent', rfl⟩
  rw [← Bool.not_eq_true, StatePath.startsWith_iff, hfills.path, hfills'.path]
  intro hprefix
  -- paths of one length of which one starts with the other are equal, and so are their last ids
  have hlength : v.path.segments.length = s.path.segments.length := by
    rw [hsegments, hsegments', List.length_append, List.length_append]
    rfl
  have heq := hprefix.eq_of_length hlength
  rw [hsegments, hsegments'] at heq
  have hlast : v.id = s.id := List.singleton_inj.mp (List.append_cancel_left heq)
  exact hid (hfills'.id.trans (hlast.trans hfills.id.symm))

end Realizes

/-- The state at a position of a machine has a transition for exactly the events of its node, with
the target as it is read from the text, and it leads to the one state that the target names by the
structure of the machine: never to a state that has the same id elsewhere. -/
theorem resolves_of_ofDefinition (h : ofDefinition d = .ok m) (ht : m.state? q = some t) :
    ∃ n, d.preorder[q]? = some (t.path, n) ∧ m.Resolves q t n := by
  have hm := realizes_of_ofDefinition h
  obtain ⟨s, hs, hfills⟩ := hm.placed_of_state ht
  have htable : ∀ event, t.transitions.get? event = m.transitionAt event q := by
    intro event
    rw [transitionAt, ht, Option.bind_some]
  have hnames : ∀ event tr, t.transitions.get? event = some tr → m.Names q t tr.target tr.node := by
    intro event tr htr
    obtain ⟨text, -, hparse, u, hu, hids⟩ := hm.exists_target_of_get? hs ht htr
    exact hm.names hs hfills hparse hu hids
  have hlisted := Definition.getElem?_preorder_iff.mpr ⟨s, hs, hfills.path.symm, rfl⟩
  refine ⟨s.node, hlisted, ?_, ?_, ?_, ?_⟩
  · refine Table.keys_congr fun event => ?_
    rw [htable]
    cases hon : s.node.on.get? event with
    | none => rw [hm.transition_none hs hon, Option.isSome_none, Option.isSome_none]
    | some text =>
      obtain ⟨tr, htr, -⟩ := hm.transition_some hs hon
      rw [htr, Option.isSome_some, Option.isSome_some]
  · intro event text hon
    obtain ⟨tr, htr, hparse, -⟩ := hm.transition_some hs hon
    rw [← htable] at htr
    exact ⟨tr, htr, hparse, hnames event tr htr⟩
  · intro event tr htr htarget
    have hself := hnames event tr htr
    rw [htarget] at hself
    exact eq_of_names_self ht hself
  · intro event tr id u htr htarget hbelow hid hu
    obtain ⟨j, hparent⟩ := Option.ne_none_iff_exists'.mp hbelow
    have hsole := hnames event tr htr
    simp only [htarget, Names, hparent] at hsole
    obtain ⟨u', hu', hparent', hid'⟩ := (hsole tr.node).mpr rfl
    rw [hu, Option.some.injEq] at hu'
    subst hu'
    have hne : u.id ≠ t.id := hid' ▸ hid
    exact ⟨hparent'.trans hparent.symm, hm.startsWith_of_siblings ht hu hparent hparent' hne,
      hm.startsWith_of_siblings hu ht hparent' hparent hne.symm⟩

/-- An order that is being processed has two transitions; both are resolved by structure. -/
theorem resolves_order :
    ofDefinition .order = .ok .order ∧ ∃ t n, order.state? 3 = some t ∧
      t.transitions.keys = ["REFUND", "SHIP"] ∧ order.Resolves 3 t n := by
  have hstate : ∃ t, order.state? 3 = some t ∧ t.transitions.keys = ["REFUND", "SHIP"] :=
    ⟨_, rfl, rfl⟩
  obtain ⟨t, ht, hkeys⟩ := hstate
  obtain ⟨n, -, hresolves⟩ := resolves_of_ofDefinition ofDefinition_order ht
  exact ⟨ofDefinition_order, t, n, ht, hkeys, hresolves⟩

end Machine

end Statechart
