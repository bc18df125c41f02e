import Statechart.Proofs.Machine.Entry
/-!
Looking states up and handling events, by position and by name. A position and a list of ids answer
for each other if the path of the slot at the position is that list. Main statements: a text is
looked up at the position that answers for what it names, and the search for a transition along the
line of an atomic state ends at the position that answers for the longest prefix that handles the
event.
-/

namespace Statechart

section

variable {α β : Type} {r : α → β → Prop}

theorem rel_some_left_iff {a : α} {y : Option β} :
    Option.Rel r (some a) y ↔ ∃ b, y = some b ∧ r a b := by
  cases y <;> simp

theorem rel_some_right_iff {x : Option α} {b : β} :
    Option.Rel r x (some b) ↔ ∃ a, x = some a ∧ r a b := by
  cases x <;> simp

theorem rel_none_right_iff {x : Option α} : Option.Rel r x none ↔ x = none := by
  cases x <;> simp

end

namespace Definition

/-- The node at a position is the one with the given ids. -/
def At (d : Definition) (q : Nat) (ids : List String) : Prop :=
  ∃ s, d.Placed q s ∧ s.path.segments = ids

/-- A handler and its target are found at the positions of a handler and a target found by name. -/
def SameHandler (d : Definition) (found : Nat × Nat) (named : List String × String) : Prop :=
  d.At found.1 named.1 ∧ d.At found.2 (d.targetOf named.1 named.2)

variable {d : Definition}

theorem isSome_node?_iff (hd : d.Shaped) {ids : List String} :
    (d.node? ⟨ids⟩).isSome ↔ ∃ q, d.At q ids := by
  rw [Option.isSome_iff_exists]
  constructor
  · intro hexists
    obtain ⟨n, hn⟩ := hexists
    obtain ⟨q, s, hs, hpath, -⟩ := ((node?_eq_some_iff hd).mp hn).placed
    exact ⟨q, s, hs, by rw [hpath]⟩
  · intro hexists
    obtain ⟨q, s, hs, rfl⟩ := hexists
    exact ⟨s.node, (node?_eq_some_iff hd).mpr hs.reaches.1⟩

end Definition

namespace Machine

/-- The last one of some positions whose table has an event, and where its transition leads. -/
def handler? (m : Machine) (event : String) (nodes : List Nat) : Option (Nat × Nat) :=
  nodes.reverse.findSome? fun i => (m.transitionAt event i).map fun t => (i, t.node)

theorem handler?_concat (m : Machine) (event : String) (nodes : List Nat) (q : Nat) :
    m.handler? event (nodes ++ [q]) =
      match m.transitionAt event q with
      | some t => some (q, t.node)
      | none => m.handler? event nodes := by
  rw [handler?, List.reverse_append, List.reverse_singleton, List.singleton_append,
    List.findSome?_cons]
  cases m.transitionAt event q <;> rfl

/-- An event is handled where the search along the active states ends. -/
theorem transition_eq_handler? (m : Machine) (a : ActivePath) (event : String) :
    m.transition a event =
      ((m.handler? event a.nodes).map fun found => ⟨some found.1, m.enter found.2⟩).getD
        ⟨none, a⟩ := by
  rw [transition, handler?]
  cases a.nodes.reverse.findSome? _ <;> rfl

/-- Of the tables of the active states only the names count for the events that are listed. -/
theorem eventsFor_eq_keys (m : Machine) (a : ActivePath) :
    m.eventsFor a =
      ((a.nodes.flatMap fun i => ((m.state? i).map fun s => s.transitions.keys).getD []).foldl
        (fun t k => t.insert k ()) (Table.empty : Table Unit)).keys := by
  have hkeys : ∀ i, ((m.state? i).map fun s => s.transitions.keys).getD [] =
      (((m.state? i).map fun s => s.transitions.entries).getD []).map Prod.fst := by
    intro i
    cases m.state? i <;> rfl
  rw [eventsFor, funext hkeys, ← List.map_flatMap, List.foldl_map]

namespace Realizes

variable {m : Machine} {d : Definition} {q : Nat} {s : Slot} {a : ActivePath} {ids : List String}

/-! ## Looking states up -/

/-- The index answers with the position whose ids are the pieces of the text. -/
theorem index?_eq_some_iff (h : m.Realizes d) {text : String} :
    m.index? text = some q ↔ d.At q (splitDots text) := by
  rw [h.index]
  constructor
  · intro hexists
    obtain ⟨s, hs, hdisplay⟩ := hexists
    exact ⟨s, hs, (hs.display_eq_iff h.shaped).mp hdisplay⟩
  · intro hexists
    obtain ⟨s, hs, hsegments⟩ := hexists
    exact ⟨s, hs, (hs.display_eq_iff h.shaped).mpr hsegments⟩

/-- What the index answers stands and falls with the node at the pieces of the text. -/
theorem index?_rel (h : m.Realizes d) (text : String) :
    Option.Rel d.At (m.index? text)
      (if (d.node? ⟨splitDots text⟩).isSome then some (splitDots text) else none) := by
  cases hindex : m.index? text with
  | none =>
    rw [if_neg]
    · exact .none
    · rw [Definition.isSome_node?_iff h.shaped]
      intro hexists
      obtain ⟨q, hq⟩ := hexists
      rw [h.index?_eq_some_iff.mpr hq] at hindex
      cases hindex
  | some q =>
    have hq := h.index?_eq_some_iff.mp hindex
    rw [if_pos ((Definition.isSome_node?_iff h.shaped).mpr ⟨q, hq⟩)]
    exact .some hq

/-- A text is looked up at the position of the node that it names. -/
theorem lookup_rel (h : m.Realizes d) (path : String) :
    Option.Rel d.At (m.lookup path) (d.named? path) := by
  have hfull := h.index?_rel (stripHash path)
  have hbelow := h.index?_rel (m.id ++ "." ++ stripHash path)
  have hid : m.id = d.id := congrArg Definition.id h.definition
  rw [hid, splitDots_append_dot h.shaped.id.2.1] at hbelow
  rw [lookup, hid, Definition.named?]
  -- the full path is tried first on both sides
  by_cases hnode : (d.node? ⟨splitDots (stripHash path)⟩).isSome
  · rw [if_pos hnode] at hfull ⊢
    obtain ⟨q, hindex, hat⟩ := rel_some_right_iff.mp hfull
    rw [hindex]
    exact .some hat
  · rw [if_neg hnode] at hfull ⊢
    rw [rel_none_right_iff.mp hfull]
    exact hbelow

/-- A state is looked up by the text of its path, with or without a leading mark. -/
theorem lookup_display (h : m.Realizes d) (hs : d.Placed q s) :
    m.lookup s.path.display = some q ∧ m.lookup ("#" ++ s.path.display) = some q := by
  have hindex : m.index? s.path.display = some q := (h.index _ _).mpr ⟨s, hs, rfl⟩
  have hstrip : stripHash s.path.display = s.path.display := by
    obtain ⟨rest, hsegments, -⟩ := hs.reaches.1
    rw [show s.path = ⟨d.id :: rest⟩ from StatePath.ext hsegments]
    exact StatePath.stripHash_display h.shaped.id rest
  rw [lookup, lookup, stripHash_hash, hstrip, hindex]
  exact ⟨rfl, rfl⟩

/-- What is looked up is the position of a node. -/
theorem exists_placed_of_lookup (h : m.Realizes d) {path : String} (hq : m.lookup path = some q) :
    ∃ s, d.Placed q s := by
  have hrel := h.lookup_rel path
  rw [hq] at hrel
  obtain ⟨ids, -, s, hs, -⟩ := rel_some_left_iff.mp hrel
  exact ⟨s, hs⟩

/-- The empty text names no state, since no id is empty. -/
theorem ne_empty_of_lookup (h : m.Realizes d) {path : String} (hq : m.lookup path = some q) :
    path ≠ "" := by
  intro hempty
  have hrel := h.lookup_rel path
  rw [hq, hempty] at hrel
  obtain ⟨ids, hnamed, s, hs, hsegments⟩ := rel_some_left_iff.mp hrel
  have hpieces : splitDots (stripHash "") = [""] := by decide
  have hmem : "" ∈ ids := by
    unfold Definition.named? at hnamed
    rw [hpieces] at hnamed
    grind
  rw [← hsegments] at hmem
  exact (h.shaped.validId hs.reaches.1 "" hmem).1 rfl

/-! ## Handling events -/

/-- One more position at the end of a line is one more id at the end of a path: both searches look
there first. -/
theorem handler_concat (h : m.Realizes d) (hs : d.Placed q s) {front : List Nat}
    {id : String} (hpath : s.path.segments = ids ++ [id]) {event : String}
    (hfront : Option.Rel d.SameHandler (m.handler? event front) (d.handler? event ids)) :
    Option.Rel d.SameHandler (m.handler? event (front ++ [q]))
      (d.handler? event (ids ++ [id])) := by
  have hnode : d.node? ⟨ids ++ [id]⟩ = some s.node := by
    rw [← hpath]
    exact (Definition.node?_eq_some_iff h.shaped).mpr hs.reaches.1
  have htarget : d.targetAt? event (ids ++ [id]) = s.node.on.get? event := by
    rw [Definition.targetAt?, hnode, Option.bind_some]
  rw [Definition.handler?_concat, htarget, handler?_concat]
  cases hon : s.node.on.get? event with
  | none =>
    rw [h.transition_none hs hon]
    exact hfront
  | some target =>
    obtain ⟨t, ht, -, u, hu, husegments⟩ := h.transition_some hs hon
    rw [hpath] at husegments
    rw [ht]
    exact .some ⟨⟨s, hs, hpath⟩, u, hu, husegments⟩

/-- The search along the line of a state ends at the longest prefix that handles the event. -/
theorem handler_rel (h : m.Realizes d) (hs : d.Placed q s) (event : String) :
    Option.Rel d.SameHandler (m.handler? event (m.lineage q))
      (d.handler? event s.path.segments) := by
  induction hs with
  | root =>
    -- nothing is above the root, and no node has the empty list of ids
    have hempty : Option.Rel d.SameHandler (m.handler? event []) (d.handler? event []) := .none
    exact h.handler_concat .root rfl hempty
  | child hs hstates ih =>
    rw [h.lineage_eq_concat (.child hs hstates) rfl]
    exact h.handler_concat (.child hs hstates) rfl ih

/-- An event that nothing handles by name changes nothing. -/
theorem transition_of_handler?_eq_none (h : m.Realizes d) (ha : m.RestsAt d a ids) {event : String}
    (hnone : d.handler? event ids = none) : m.transition a event = ⟨none, a⟩ := by
  obtain ⟨l, u, hu, -, rfl, rfl⟩ := ha
  have hrel := h.handler_rel hu event
  rw [hnone] at hrel
  rw [transition_eq_handler?, rel_none_right_iff.mp hrel]
  rfl

/-- The handler of an event is the one found by name, and the event leads where its target leads by
name. -/
theorem transition_of_handler?_eq_some (h : m.Realizes d) (ha : m.RestsAt d a ids) {event : String}
    {front : List String} {target : String} (hsome : d.handler? event ids = some (front, target)) :
    ∃ q, d.At q front ∧ (m.transition a event).source = some q ∧
      m.RestsAt d (m.transition a event).active (d.entered (d.targetOf front target)) := by
  obtain ⟨l, u, hu, -, rfl, rfl⟩ := ha
  have hrel := h.handler_rel hu event
  rw [hsome] at hrel
  obtain ⟨⟨source, node⟩, hfound, hsource, v, hv, hsegments⟩ := rel_some_right_iff.mp hrel
  have hrests := h.restsAt_enter hv
  rw [hsegments] at hrests
  rw [transition_eq_handler?, hfound]
  exact ⟨source, hsource, rfl, hrests⟩

end Realizes

end Machine

end Statechart
