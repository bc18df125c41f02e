import Statechart.Proofs.Machine.Resolution
import Statechart.Proofs.Definition.Names
/-!
What a built machine looks like. A definition is built if and only if its structure passes the check
and every target names a node. The states of the machine are then the slots of the layout, its index
finds each of them under the text of its path, and the transition of a state for an event leads to
the node that the declared target names.
-/

namespace Statechart

namespace Definition

variable {d : Definition}

/-- A path that is not the path of any node is not found, and one that is leads to that node. -/
theorem get?_index_laidOut_path_iff (hd : d.Shaped) {p : StatePath} {q : Nat}
    (hdots : ∀ id ∈ p.segments, '.' ∉ id.toList) (hne : p.segments ≠ []) :
    d.laidOut.index.get? p.display = some q ↔ ∃ s, d.Placed q s ∧ s.path = p := by
  rw [get?_index_laidOut_iff hd]
  constructor
  · intro hexists
    obtain ⟨s, hs, hdisplay⟩ := hexists
    have hdots' := fun id hid => (hd.validId hs.reaches.1 id hid).2.1
    exact ⟨s, hs, (StatePath.display_inj hdots' hdots hs.reaches.1.ne_nil hne).mp hdisplay⟩
  · intro hexists
    obtain ⟨s, hs, rfl⟩ := hexists
    exact ⟨s, hs, rfl⟩

/-- The path of a slot that is not the root is that of a child of its scope. -/
theorem get?_index_laidOut_child_iff (hd : d.Shaped) {q k : Nat} {s : Slot} (h : d.Placed q s)
    {target : String} (hbare : Target.isAbsolute target = false) :
    d.laidOut.index.get? (s.path.child target).display = some k ↔
      ∃ u, d.Placed k u ∧ u.path.segments = s.path.segments ++ [target] := by
  have hdots : ∀ id ∈ (s.path.child target).segments, '.' ∉ id.toList := by
    intro id hid
    rcases List.mem_append.mp hid with hid | hid
    · exact (hd.validId h.reaches.1 id hid).2.1
    · rw [List.mem_singleton.mp hid]
      exact Target.dot_notMem_of_bare hbare
  rw [get?_index_laidOut_path_iff hd hdots (by simp)]
  simp only [StatePath.ext_iff, StatePath.segments_child]

/-- An absolute target denotes the node whose ids are the pieces of its text. -/
theorem denoted?_laidOut_absolute_iff (hd : d.Shaped) {q k : Nat} {t : State} {target : String}
    {p : StatePath} (hp : StatePath.parse? target = some p) :
    d.laidOut.denoted? q t (.absolute p) = some k ↔
      ∃ u, d.Placed k u ∧ u.path.segments = splitDots (stripHash target) := by
  rw [Builder.denoted?, StatePath.display_of_parse? hp, get?_index_laidOut_iff hd]
  constructor
  · intro hexists
    obtain ⟨u, hu, hdisplay⟩ := hexists
    exact ⟨u, hu, (hu.display_eq_iff hd).mp hdisplay⟩
  · intro hexists
    obtain ⟨u, hu, hsegments⟩ := hexists
    exact ⟨u, hu, (hu.display_eq_iff hd).mpr hsegments⟩

/-- At the root a bare id denotes the root before any child of it. -/
theorem denoted?_laidOut_root_iff (hd : d.Shaped) {q k : Nat} {s : Slot} (h : d.Placed q s)
    (hparent : s.parent = none) (hid : s.id = d.id) (hpath : s.path = d.rootPath)
    {target : String} (hbare : Target.isAbsolute target = false) :
    d.laidOut.denoted? q s.state (.relative target) = some k ↔
      ∃ u, d.Placed k u ∧
        u.path.segments = if target = d.id then [d.id] else [d.id, target] := by
  have hsegments : s.path.segments = [d.id] := by
    rw [hpath]
    rfl
  simp only [Builder.denoted?, Slot.state, hparent]
  by_cases heq : target = d.id
  · rw [if_pos (hid.trans heq.symm), if_pos heq, Option.some.injEq]
    constructor
    · intro hq
      subst hq
      exact ⟨s, h, hsegments⟩
    · intro hexists
      obtain ⟨u, hu, husegments⟩ := hexists
      exact h.position_unique hd hu (StatePath.ext (hsegments.trans husegments.symm))
  · rw [if_neg (fun h' => heq (h'.symm.trans hid)), if_neg heq]
    have hchild := get?_index_laidOut_child_iff (k := k) hd h hbare
    rwa [hsegments] at hchild

/-- Below the root a bare id denotes a child of the parent. -/
theorem denoted?_laidOut_child_iff (hd : d.Shaped) {q p k : Nat} {s scope : Slot}
    (hscope : d.Placed p scope) (hparent : s.parent = some p) {target : String}
    (hbare : Target.isAbsolute target = false) :
    d.laidOut.denoted? q s.state (.relative target) = some k ↔
      ∃ u, d.Placed k u ∧ u.path.segments = scope.path.segments ++ [target] := by
  rw [← get?_index_laidOut_child_iff hd hscope hbare]
  simp only [Builder.denoted?, Slot.state, hparent]
  rw [getElem?_states_laidOut, hscope.getElem?]
  rfl

/-- A target that can be read denotes the node that it names. -/
theorem denoted?_laidOut_iff (hd : d.Shaped) {q k : Nat} {s : Slot} (h : d.Placed q s)
    {target : String} {t : Target} (ht : Target.parse? target = some t) :
    d.laidOut.denoted? q s.state t = some k ↔
      ∃ u, d.Placed k u ∧ u.path.segments = d.targetOf s.path.segments target := by
  cases habs : Target.isAbsolute target with
  | true =>
    rw [Target.parse?_of_absolute habs] at ht
    obtain ⟨p, hp, rfl⟩ := Option.map_eq_some_iff.mp ht
    rw [targetOf_of_absolute habs]
    exact denoted?_laidOut_absolute_iff hd hp
  | false =>
    have hne : target ≠ "" := by
      intro heq
      subst heq
      cases ht
    rw [Target.parse?_of_bare habs hne, Option.some.injEq] at ht
    subst ht
    rcases h.parent_cases with
      ⟨-, hparent, hid, hpath, -⟩ | ⟨p, scope, hscope, hparent, -, hpath, -⟩
    · have hsegments : s.path.segments = [d.id] := by
        rw [hpath]
        rfl
      rw [hsegments, targetOf_root_of_bare habs]
      exact denoted?_laidOut_root_iff hd h hparent hid hpath habs
    · have hsegments : s.path.segments = scope.path.segments ++ [s.id] := by
        rw [hpath]
        rfl
      rw [hsegments, targetOf_child_of_bare habs hscope.reaches.1.ne_nil]
      exact denoted?_laidOut_child_iff hd hscope hparent habs

/-- A transition that waits is settled to the node that its target names. -/
theorem settled?_laidOut_iff (hd : d.Shaped) {q : Nat} {s : Slot} (h : d.Placed q s)
    {event target : String} {t : Transition} :
    d.laidOut.settled? ⟨q, event, target⟩ = some t ↔
      Target.parse? target = some t.target ∧
        ∃ u, d.Placed t.node u ∧ u.path.segments = d.targetOf s.path.segments target := by
  have hresolved : d.laidOut.settled? ⟨q, event, target⟩ =
      d.laidOut.resolved? q s.state target := by
    show (d.laidOut.states[q]?).bind _ = _
    rw [getElem?_states_laidOut, h.getElem?, Option.map_some, Option.bind_some]
  rw [hresolved, Builder.resolved?]
  cases hparse : Target.parse? target with
  | none => simp
  | some t' =>
    rw [Option.bind_some, Option.map_eq_some_iff]
    constructor
    · intro hexists
      obtain ⟨k, hk, rfl⟩ := hexists
      exact ⟨rfl, (denoted?_laidOut_iff hd h hparse).mp hk⟩
    · intro hparts
      obtain ⟨heq, hu⟩ := hparts
      cases heq
      exact ⟨t.node, (denoted?_laidOut_iff hd h hparse).mpr hu, rfl⟩

theorem isSome_settled?_laidOut_iff (hd : d.Shaped) {q : Nat} {s : Slot} (h : d.Placed q s)
    {event target : String} :
    (d.laidOut.settled? ⟨q, event, target⟩).isSome ↔
      ∃ n, d.Reaches (d.targetOf s.path.segments target) n := by
  rw [Option.isSome_iff_exists]
  constructor
  · intro hexists
    obtain ⟨t, ht⟩ := hexists
    obtain ⟨-, u, hu, hsegments⟩ := (settled?_laidOut_iff hd h).mp ht
    exact ⟨u.node, hsegments ▸ hu.reaches.1⟩
  · intro hexists
    obtain ⟨n, hn⟩ := hexists
    obtain ⟨t, ht⟩ := Option.isSome_iff_exists.mp (isSome_parse?_of_reaches hd hn)
    obtain ⟨k, u, hu, hpath, -⟩ := hn.placed
    refine ⟨⟨t, k⟩, (settled?_laidOut_iff hd h).mpr ⟨ht, u, hu, ?_⟩⟩
    rw [hpath]

/-- Every transition that waits belongs to a state that is there. -/
theorem isSome_states_of_mem_pending {p : Pending} (h : p ∈ d.laidOut.pending) :
    (d.laidOut.states[p.node]?).isSome := by
  obtain ⟨s, hs, -⟩ := mem_pending_laidOut_iff.mp h
  rw [getElem?_states_laidOut, hs.getElem?]
  rfl

/-- A state has no transition for an event for which its node declares no target. -/
theorem transitionOf_of_on_eq_none {b : Builder}
    (h : d.laidOut.resolveAll d.laidOut.pending = .ok b) {q : Nat} {s : Slot} (hs : d.Placed q s)
    {event : String} (hnone : s.node.on.get? event = none) : b.transitionOf q event = none := by
  rw [Builder.transitionOf_resolveAll_of_forall_ne (fun p hp => isSome_states_of_mem_pending hp) h]
  · show (d.laidOut.states[q]?).bind _ = none
    rw [getElem?_states_laidOut, hs.getElem?]
    rfl
  · intro p hp hparts
    obtain ⟨rfl, rfl⟩ := hparts
    obtain ⟨s', hs', htarget⟩ := mem_pending_laidOut_iff.mp hp
    rw [hs'.unique hs, hnone] at htarget
    cases htarget

/-- The transition of a state for an event is what the declared target is settled to. -/
theorem transitionOf_of_on_eq_some {b : Builder}
    (h : d.laidOut.resolveAll d.laidOut.pending = .ok b) {q : Nat} {s : Slot} (hs : d.Placed q s)
    {event target : String} (hsome : s.node.on.get? event = some target) :
    b.transitionOf q event = d.laidOut.settled? ⟨q, event, target⟩ := by
  have hmem : (⟨q, event, target⟩ : Pending) ∈ d.laidOut.pending :=
    mem_pending_laidOut_iff.mpr ⟨s, hs, hsome⟩
  refine Builder.transitionOf_resolveAll_of_mem (fun p hp => isSome_states_of_mem_pending hp) h
    hmem ?_
  -- a table declares one target for an event, so no other transition waits for this entry
  intro p hp hnode hevent
  obtain ⟨s', hs', htarget⟩ := mem_pending_laidOut_iff.mp hp
  obtain ⟨node, event', target'⟩ := p
  cases hnode
  cases hevent
  rw [hs'.unique hs, hsome, Option.some.injEq] at htarget
  rw [htarget]

end Definition

namespace Machine

variable {d : Definition} {m : Machine}

/-- Building is the check, and then the second pass over the layout. -/
theorem ofDefinition_eq (d : Definition) :
    ofDefinition d =
      match d.check with
      | .error e => .error e
      | .ok () =>
        match d.laidOut.resolveAll d.laidOut.pending with
        | .error e => .error e
        | .ok b => .ok ⟨d, b.states, b.index⟩ := by
  rw [ofDefinition, Definition.addNode_empty]
  cases d.check with
  | error e => rfl
  | ok _ => rfl

/-- A machine is built exactly from a structure that passes the check and from targets that all name
nodes. -/
theorem ofDefinition_ok_iff :
    (∃ m, ofDefinition d = .ok m) ↔
      d.Shaped ∧ ∀ ids n, d.Reaches ids n → ∀ event target, n.on.get? event = some target →
        ∃ n', d.Reaches (d.targetOf ids target) n' := by
  rw [← Definition.check_eq_ok_iff, ofDefinition_eq]
  cases hcheck : d.check with
  | error e => simp
  | ok _ =>
    have hd : d.Shaped := Definition.check_eq_ok_iff.mp hcheck
    -- the first pass is done; what is left is whether the second one settles everything
    have hpass : (∃ b, d.laidOut.resolveAll d.laidOut.pending = .ok b) ↔
        ∀ p ∈ d.laidOut.pending, (d.laidOut.settled? p).isSome :=
      Builder.resolveAll_ok_iff fun p hp => Definition.isSome_states_of_mem_pending hp
    have hbuilt : (∃ m, (match d.laidOut.resolveAll d.laidOut.pending with
        | .error e => .error e
        | .ok b => .ok (Machine.mk d b.states b.index)) = Except.ok m) ↔
          ∃ b, d.laidOut.resolveAll d.laidOut.pending = .ok b := by
      cases d.laidOut.resolveAll d.laidOut.pending <;> simp
    show (∃ m, (match d.laidOut.resolveAll d.laidOut.pending with
        | .error e => .error e
        | .ok b => .ok (Machine.mk d b.states b.index)) = Except.ok m) ↔ _
    rw [hbuilt, hpass]
    constructor
    · intro h
      refine ⟨rfl, ?_⟩
      intro ids n hn event target htarget
      obtain ⟨q, s, hs, hpath, rfl⟩ := hn.placed
      have hsome := h ⟨q, event, target⟩ (Definition.mem_pending_laidOut_iff.mpr ⟨s, hs, htarget⟩)
      have := (Definition.isSome_settled?_laidOut_iff hd hs).mp hsome
      rwa [hpath] at this
    · intro hparts p hp
      obtain ⟨-, h⟩ := hparts
      obtain ⟨s, hs, htarget⟩ := Definition.mem_pending_laidOut_iff.mp hp
      exact (Definition.isSome_settled?_laidOut_iff hd hs).mpr
        (h _ _ hs.reaches.1 p.event p.target htarget)

/-- The states, the index and the transitions of a machine are those of a definition. -/
structure Realizes (m : Machine) (d : Definition) : Prop where
  definition : m.definition = d
  shaped : d.Shaped
  states : ∀ q, (m.state? q).map State.bare = (d.layout[q]?).map Slot.state
  index : ∀ t q, m.index? t = some q ↔ ∃ s, d.Placed q s ∧ s.path.display = t
  transition_none : ∀ {q s event}, d.Placed q s → s.node.on.get? event = none →
    m.transitionAt event q = none
  transition_some : ∀ {q s event target}, d.Placed q s → s.node.on.get? event = some target →
    ∃ t, m.transitionAt event q = some t ∧ Target.parse? target = some t.target ∧
      ∃ u, d.Placed t.node u ∧ u.path.segments = d.targetOf s.path.segments target

theorem realizes_of_ofDefinition (h : ofDefinition d = .ok m) : m.Realizes d := by
  obtain ⟨hd, htargets⟩ := ofDefinition_ok_iff.mp ⟨m, h⟩
  rw [ofDefinition_eq, Definition.check_eq_ok_iff.mpr hd] at h
  cases hpass : d.laidOut.resolveAll d.laidOut.pending with
  | error e =>
    simp only [hpass] at h
    cases h
  | ok b =>
    simp only [hpass, Except.ok.injEq] at h
    subst h
    have hshape := Builder.sameShape_resolveAll hpass
    refine ⟨rfl, hd, ?_, ?_, ?_, ?_⟩
    · intro q
      show (b.states[q]?).map State.bare = _
      rw [hshape.states q, Definition.getElem?_states_laidOut, Option.map_map]
      rfl
    · intro t q
      show b.index.get? t = some q ↔ _
      rw [hshape.index, Definition.get?_index_laidOut_iff hd]
    · intro q s event hs hnone
      exact Definition.transitionOf_of_on_eq_none hpass hs hnone
    · intro q s event target hs hsome
      have hnamed := htargets _ _ hs.reaches.1 event target hsome
      have hsettled : (d.laidOut.settled? ⟨q, event, target⟩).isSome :=
        (Definition.isSome_settled?_laidOut_iff hd hs).mpr hnamed
      obtain ⟨t, ht⟩ := Option.isSome_iff_exists.mp hsettled
      have htransition := Definition.transitionOf_of_on_eq_some hpass hs hsome
      exact ⟨t, htransition.trans ht, (Definition.settled?_laidOut_iff hd hs).mp ht⟩

/-! ## The state at the position of a slot -/

/-- A state has the id, the path, the parent and the kind of a slot. -/
structure Fills (t : State) (s : Slot) : Prop where
  id : t.id = s.id
  path : t.path = s.path
  parent : t.parent = s.parent
  kind : t.kind = s.kind

theorem fills_of_bare {t : State} {s : Slot} (h : t.bare = s.state) : Fills t s := by
  have hfields : t.bare = s.state.bare := h
  obtain ⟨hid, hpath, hparent, hkind⟩ := State.fields_of_bare hfields
  exact ⟨hid, hpath, hparent, hkind⟩

namespace Fills

variable {q : Nat} {t : State} {s : Slot}

/-- The first child of a state stands right behind it. -/
theorem kind_eq_kindAt (h : Fills t s) (hs : d.Placed q s) : t.kind = s.node.kindAt (q + 1) := by
  rw [h.kind, hs.eq_slot]
  rfl

theorem kind_eq_atomic (h : Fills t s) (hs : d.Placed q s) (hstates : s.node.states = []) :
    t.kind = .atomic := by
  rw [h.kind_eq_kindAt hs]
  exact Node.kindAt_of_states_nil hstates _

end Fills

namespace Realizes

/-- Where a slot is placed there is its state. -/
theorem state_of_placed (h : m.Realizes d) {q : Nat} {s : Slot} (hs : d.Placed q s) :
    ∃ t, m.state? q = some t ∧ Fills t s := by
  have hq := h.states q
  rw [hs.getElem?, Option.map_some] at hq
  obtain ⟨t, ht, hbare⟩ := Option.map_eq_some_iff.mp hq
  exact ⟨t, ht, fills_of_bare hbare⟩

/-- Where there is a state its slot is placed. -/
theorem placed_of_state (h : m.Realizes d) {q : Nat} {t : State} (ht : m.state? q = some t) :
    ∃ s, d.Placed q s ∧ Fills t s := by
  have hq := h.states q
  rw [ht, Option.map_some] at hq
  obtain ⟨s, hs, hbare⟩ := Option.map_eq_some_iff.mp hq.symm
  exact ⟨s, Definition.getElem?_layout_iff.mp hs, fills_of_bare hbare.symm⟩

/-- There are as many states as nodes. -/
theorem size_eq (h : m.Realizes d) : m.size = d.root.size := by
  have hlist : m.states.toList.map State.bare = d.layout.map Slot.state := by
    apply List.ext_getElem?
    intro q
    rw [List.getElem?_map, List.getElem?_map, Array.getElem?_toList]
    exact h.states q
  have hlength := congrArg List.length hlist
  rwa [List.length_map, List.length_map, Array.length_toList, d.length_layout] at hlength

end Realizes

end Machine

/-! ## An order on its way -/

/-- An order is paid, processed and shipped until it is closed. -/
def Definition.order : Definition where
  id := "order"
  context := none
  root := .mk (some "pending") [
    ("pending", .mk none [] (.ofList [("PAY", "active")])),
    ("active", .mk (some "processing") [
      ("processing", .mk none []
        (.ofList [("SHIP", "shipped"), ("REFUND", "#order.closed.refunded")])),
      ("shipped", .mk none [] (.ofList [("DELIVER", "order.closed")]))]
      (.ofList [("CANCEL", "closed")])),
    ("closed", .mk (some "delivered") [("delivered", .atomic), ("refunded", .atomic)] .empty)]
    .empty

/-- The machine of an order. -/
def Machine.order : Machine :=
  (ofDefinition .order).toOption.getD ⟨.order, #[], .empty⟩

theorem Machine.ofDefinition_order : ofDefinition .order = .ok .order := by rfl

end Statechart
