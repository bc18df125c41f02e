import Statechart.Proofs.Machine.Entry
/-!
Entering a state, seen from the list that comes out. One loop goes from the state to its parent and
on to the root, the same loop with other links goes from the state to its initial child and on to a
state without children. Both end, since parents stand before and initial children behind a state.
Main statement: a list runs from the root through the state and, below it, along initial children to
an atomic state if and only if it is the list of entered states.
-/

namespace Statechart

theorem State.isAtomic_iff {s : State} : s.isAtomic = true ↔ s.initial = none := by
  unfold isAtomic initial
  cases s.kind <;> simp

namespace Machine

/-! ## The two loops -/

/-- The loop that goes from a state on to the next one, as long as there is one, ends after it has
passed some states. -/
inductive Passes (m : Machine) (next : State → Option Nat) : Nat → List Nat → Prop
  | stop {q : Nat} {t : State} : m.state? q = some t → next t = none → Passes m next q [q]
  | step {q j : Nat} {t : State} {nodes : List Nat} :
    m.state? q = some t → next t = some j → Passes m next j nodes → Passes m next q (q :: nodes)

variable {m : Machine} {q : Nat} {nodes nodes' : List Nat}

section

variable {next : State → Option Nat}

/-- There is one way for a loop to go. -/
theorem Passes.unique (h : m.Passes next q nodes) (h' : m.Passes next q nodes') :
    nodes = nodes' := by
  induction h generalizing nodes' with
  | stop ht hnone =>
    cases h' with
    | stop => rfl
    | step ht' hsome _ =>
      rw [ht, Option.some.injEq] at ht'
      rw [← ht', hnone] at hsome
      cases hsome
  | step ht hsome _ ih =>
    cases h' with
    | stop ht' hnone =>
      rw [ht, Option.some.injEq] at ht'
      rw [← ht', hsome] at hnone
      cases hnone
    | step ht' hsome' hrest =>
      rw [ht, Option.some.injEq] at ht'
      rw [← ht', hsome, Option.some.injEq] at hsome'
      subst hsome'
      rw [ih hrest]

/-- A loop passes the states of a list if each one leads to the next one and the last to none. -/
theorem passes_iff : m.Passes next q nodes ↔ nodes.head? = some q ∧
    (nodes.IsChain fun i j => (m.state? i).bind next = some j) ∧
      ∃ l t, nodes.getLast? = some l ∧ m.state? l = some t ∧ next t = none := by
  constructor
  · intro h
    induction h with
    | stop ht hnone => exact ⟨rfl, List.isChain_singleton _, _, _, rfl, ht, hnone⟩
    | @step q j t nodes ht hsome _ ih =>
      obtain ⟨hhead, hchain, l, u, hl, hu, hnone⟩ := ih
      obtain ⟨rest, rfl⟩ := List.head?_eq_some_iff.mp hhead
      refine ⟨rfl, List.isChain_cons_cons.mpr ⟨?_, hchain⟩, l, u, ?_, hu, hnone⟩
      · rw [ht, Option.bind_some, hsome]
      · rw [List.getLast?_cons_cons, hl]
  · intro hparts
    obtain ⟨hhead, hchain, l, u, hl, hu, hnone⟩ := hparts
    obtain ⟨rest, rfl⟩ := List.head?_eq_some_iff.mp hhead
    clear hhead
    induction rest generalizing q with
    | nil =>
      rw [List.getLast?_singleton, Option.some.injEq] at hl
      subst hl
      exact .stop hu hnone
    | cons j rest ih =>
      obtain ⟨hj, hrest⟩ := List.isChain_cons_cons.mp hchain
      obtain ⟨t, ht, hsome⟩ := Option.bind_eq_some_iff.mp hj
      rw [List.getLast?_cons_cons] at hl
      exact .step ht hsome (ih hrest hl)

end

/-! ## The list of entered states -/

/-- A list of states that runs from the root through the state at `q` and, below it, along initial
children to an atomic state. -/
structure IsEntry (m : Machine) (q : Nat) (nodes : List Nat) : Prop where
  root : nodes.head? = some root
  /-- Each state is the parent of the next one. -/
  parents : nodes.IsChain fun i j => (m.state? j).bind State.parent = some i
  /-- The state is on the list, and behind it each one is the initial child of the one before. -/
  initials : ∃ above below, nodes = above ++ q :: below ∧
    (q :: below).IsChain fun i j => (m.state? i).bind State.initial = some j
  atomic : ∃ l t, nodes.getLast? = some l ∧ m.state? l = some t ∧ t.isAtomic = true

namespace Realizes

variable {d : Definition} {s : Slot} {t : State}

/-- A parent stands before its children. -/
theorem lt_of_parent (h : m.Realizes d) {p : Nat} (hp : (m.state? q).bind State.parent = some p) :
    p < q := by
  obtain ⟨t, ht, hparent⟩ := Option.bind_eq_some_iff.mp hp
  obtain ⟨s, hs, hfills⟩ := h.placed_of_state ht
  rw [hfills.parent] at hparent
  rcases hs.parent_cases with ⟨-, hnone, -⟩ | ⟨p', scope, -, hsome, hlt, -⟩
  · rw [hnone] at hparent
    cases hparent
  · rw [hsome, Option.some.injEq] at hparent
    rwa [← hparent]

/-- The loop to the parents ends, and what it passes is the line of the state from its other end. -/
theorem passes_parent_lineage (h : m.Realizes d) (hs : d.Placed q s) :
    m.Passes State.parent q (m.lineage q).reverse := by
  induction hs with
  | root =>
    obtain ⟨t, ht, hfills⟩ := h.state_of_placed .root
    exact .stop ht hfills.parent
  | child hs hstates ih =>
    obtain ⟨t, ht, hfills⟩ := h.state_of_placed (.child hs hstates)
    rw [h.lineage_eq_concat (.child hs hstates) rfl, List.reverse_concat]
    exact .step ht hfills.parent ih

/-- The initial child of a state has it as its parent. -/
theorem parent_of_initial (h : m.Realizes d) {c : Nat}
    (hc : (m.state? q).bind State.initial = some c) : (m.state? c).bind State.parent = some q := by
  obtain ⟨t, ht, hinitial⟩ := Option.bind_eq_some_iff.mp hc
  obtain ⟨s, hs, hfills⟩ := h.placed_of_state ht
  have hstates : s.node.states ≠ [] := by
    intro hnil
    rw [State.initial, hfills.kind_eq_atomic hs hnil] at hinitial
    cases hinitial
  obtain ⟨-, c', u, hc', hu, hparent, -⟩ := h.initial_of_states_ne_nil hs hstates
  rw [hc, Option.some.injEq] at hc'
  subst hc'
  exact (h.parent_of_placed hu).trans hparent

/-- The loop to the initial children ends, since each of them stands behind its parent and there is a
last state. -/
theorem passes_initial_descent (h : m.Realizes d) (ht : m.state? q = some t) {fuel : Nat}
    (hfuel : m.size ≤ fuel + q) : m.Passes State.initial q (q :: m.descent fuel q) := by
  induction fuel generalizing q t with
  | zero =>
    have hlt : q < m.size := (Array.getElem?_eq_some_iff.mp ht).1
    omega
  | succ fuel ih =>
    rw [descent, ht, Option.bind_some]
    cases hinitial : t.initial with
    | none => exact .stop ht hinitial
    | some c =>
      have hparent := h.parent_of_initial (c := c) (by rw [ht, Option.bind_some, hinitial])
      have hlt := h.lt_of_parent hparent
      obtain ⟨t', ht', -⟩ := Option.bind_eq_some_iff.mp hparent
      exact .step ht hinitial (ih ht' (by omega))

/-- Nothing is entered below a state exactly if it is atomic. -/
theorem entry_eq_nil_iff (h : m.Realizes d) (hs : d.Placed q s) (ht : m.state? q = some t) :
    s.node.entry = [] ↔ t.isAtomic = true := by
  have hinitial : t.initial = (m.state? q).bind State.initial := by rw [ht, Option.bind_some]
  have hsound := h.shaped.sound hs.reaches.1
  rw [State.isAtomic_iff, hinitial]
  by_cases hstates : s.node.states = []
  · simp [hsound.entry_eq_nil hstates, h.initial_of_states_nil hs hstates]
  · obtain ⟨id, c, u, hc, -, -, hid, hmem, -⟩ := h.initial_of_states_ne_nil hs hstates
    simp [hsound.entry_eq_cons hid hmem, hc]

/-- What the two loops pass, put together, is a list as asked for. -/
theorem isEntry_of_passes (h : m.Realizes d) (hs : d.Placed q s) {up down : List Nat}
    (hup : m.Passes State.parent q up) (hdown : m.Passes State.initial q (q :: down)) :
    m.IsEntry q (up.reverse ++ down) := by
  obtain ⟨-, hinitials, l, t, hl, ht, hnone⟩ := passes_iff.mp hdown
  have hline : up.reverse = m.lineage q := by
    rw [hup.unique (h.passes_parent_lineage hs), List.reverse_reverse]
  obtain ⟨above, hup'⟩ : ∃ above, up.reverse = above ++ [q] := by
    rw [hline]
    exact List.getLast?_eq_some_iff.mp (h.getLast?_lineage hs)
  -- the state at hand is the first one of both loops
  have hlist : up.reverse ++ down = above ++ q :: down := by
    rw [hup', List.append_assoc]
    rfl
  have hparents : (above ++ [q]).IsChain fun i j => (m.state? j).bind State.parent = some i := by
    rw [← hup', hline]
    exact h.isChain_lineage hs
  have hbelow : (q :: down).IsChain fun i j => (m.state? j).bind State.parent = some i :=
    hinitials.imp fun _ _ => h.parent_of_initial
  refine ⟨?_, ?_, ⟨above, down, hlist, hinitials⟩, l, t, ?_, ht, State.isAtomic_iff.mpr hnone⟩
  · rw [List.head?_append, hline, h.head?_lineage hs]
    rfl
  · rw [hup']
    exact hparents.append_overlap hbelow (List.cons_ne_nil q [])
  · rw [hlist, List.getLast?_append_of_ne_nil _ (List.cons_ne_nil q down)]
    exact hl

/-- Any list as asked for is what the two loops pass. -/
theorem passes_of_isEntry (h : m.Realizes d) (hentry : m.IsEntry q nodes) :
    ∃ up down, m.Passes State.parent q up ∧ m.Passes State.initial q (q :: down) ∧
      nodes = up.reverse ++ down := by
  obtain ⟨hroot, hparents, ⟨above, below, rfl, hinitials⟩, l, t, hl, ht, hatomic⟩ := hentry
  obtain ⟨t₀, ht₀, hfills⟩ := h.state_of_placed .root
  have hlist : above ++ q :: below = (above ++ [q]) ++ below := by simp
  refine ⟨(above ++ [q]).reverse, below, passes_iff.mpr ⟨?_, ?_, root, t₀, ?_, ht₀, hfills.parent⟩,
    passes_iff.mpr ⟨rfl, hinitials, l, t, ?_, ht, State.isAtomic_iff.mp hatomic⟩, ?_⟩
  · rw [List.head?_reverse, List.getLast?_concat]
  · rw [hlist] at hparents
    exact List.isChain_reverse.mpr hparents.left_of_append
  · rwa [List.getLast?_reverse, ← List.head?_append_of_ne_nil _ (by simp), ← hlist]
  · rwa [List.getLast?_append_of_ne_nil _ (List.cons_ne_nil q below)] at hl
  · rw [List.reverse_reverse, hlist]

end Realizes

/-- Entering a state: both loops end, and the entered states are the only list from the root through
the state that goes on along initial children to an atomic state. Positions increase along it, so no
state occurs twice. The path of its leaf lies at or below the path of the state and is equal to it
exactly if the state is atomic, and entering the leaf gives the same list. -/
theorem enter_isEntry {d : Definition} {t : State} (h : ofDefinition d = .ok m)
    (ht : m.state? q = some t) :
    (∃ up down, m.Passes State.parent q up ∧ m.Passes State.initial q (q :: down) ∧
        m.enter q = ⟨up.reverse ++ down⟩) ∧
      (∀ nodes, m.IsEntry q nodes ↔ m.enter q = ⟨nodes⟩) ∧
      (m.enter q).nodes.Pairwise (· < ·) ∧
      (m.pathOf (m.enter q)).startsWith t.path = true ∧
      (m.pathOf (m.enter q) = t.path ↔ t.isAtomic = true) ∧
      ∃ l, (m.enter q).leaf = some l ∧ m.enter l = m.enter q := by
  have hm := realizes_of_ofDefinition h
  obtain ⟨s, hs, hfills⟩ := hm.placed_of_state ht
  have hup := hm.passes_parent_lineage hs
  have hdown := hm.passes_initial_descent ht (Nat.le_add_right m.size q)
  have henter := hm.enter_eq hs
  have hentry := hm.isEntry_of_passes hs hup hdown
  rw [List.reverse_reverse] at hentry
  obtain ⟨l, u, hu, hleaf, hsegments, hline⟩ := hm.exists_leaf hs (Nat.le_add_right m.size q)
  have hpath : m.pathOf (m.enter q) = u.path :=
    hm.pathOf_of_restsAt ⟨l, u, hu, hleaf, rfl, by rw [henter, hline]⟩
  refine ⟨⟨_, _, hup, hdown, by rw [henter, List.reverse_reverse]⟩, ?_, ?_, ?_, ?_, l, ?_, ?_⟩
  · -- both loops go one way only, so that there is one list as asked for
    intro nodes
    rw [henter, ActivePath.mk.injEq]
    constructor
    · intro hnodes
      obtain ⟨up, down, hup', hdown', rfl⟩ := hm.passes_of_isEntry hnodes
      have hdown_eq := List.cons_inj_right q |>.mp (hdown.unique hdown')
      rw [← hup.unique hup', List.reverse_reverse, hdown_eq]
    · intro heq
      rwa [← heq]
  · rw [henter]
    exact (hentry.parents.imp fun _ _ => hm.lt_of_parent).pairwise
  · rw [hpath, hfills.path, StatePath.startsWith_iff, hsegments]
    exact List.prefix_append _ _
  · rw [hpath, hfills.path, StatePath.ext_iff, hsegments, List.append_right_eq_self]
    exact hm.entry_eq_nil_iff hs ht
  · rw [henter, hline]
    exact hm.getLast?_lineage hu
  · rw [hm.enter_of_states_nil hu hleaf, henter, hline]

/-- The active states of an order that is being processed. -/
theorem enter_isEntry_order :
    ofDefinition .order = .ok .order ∧ order.IsEntry 2 [0, 2, 3] ∧
      (order.pathOf (order.enter 2)).display = "order.active.processing" := by
  have hactive : ∃ t, order.state? 2 = some t := ⟨_, rfl⟩
  obtain ⟨t, ht⟩ := hactive
  obtain ⟨-, hentry, -⟩ := enter_isEntry ofDefinition_order ht
  exact ⟨ofDefinition_order, (hentry [0, 2, 3]).mpr rfl, rfl⟩

end Machine

end Statechart
