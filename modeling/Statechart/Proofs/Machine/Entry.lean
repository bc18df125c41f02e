import Statechart.Proofs.Machine.Built
import Statechart.Proofs.Definition.Semantics
import Mathlib.Data.List.Chain
/-!
Entering a state. Going up from a state ends at the root, since a parent stands before its children,
and going down ends at a state without children, since these stand behind it; so the fuel of both
walks is never used up. Main statements: what is active after a state has been entered is the line
of ancestors of one atomic state, and the ids along that line are the path of that state.
-/

namespace Statechart

namespace Machine

/-- The positions from the root down to `q`. -/
def lineage (m : Machine) (q : Nat) : List Nat := m.ancestors q q []

namespace Realizes

variable {m : Machine} {d : Definition} {q : Nat} {s : Slot}

/-! ## Links between positions -/

theorem parent_of_placed (h : m.Realizes d) (hs : d.Placed q s) :
    (m.state? q).bind State.parent = s.parent := by
  obtain ⟨t, ht, hfills⟩ := h.state_of_placed hs
  rw [ht, Option.bind_some, hfills.parent]

/-- A state without children leads nowhere. -/
theorem initial_of_states_nil (h : m.Realizes d) (hs : d.Placed q s)
    (hstates : s.node.states = []) : (m.state? q).bind State.initial = none := by
  obtain ⟨t, ht, hfills⟩ := h.state_of_placed hs
  rw [ht, Option.bind_some, State.initial, hfills.kind_eq_atomic hs hstates]

/-- A state with children leads to the child with the declared id. -/
theorem initial_of_states_ne_nil (h : m.Realizes d) (hs : d.Placed q s)
    (hstates : s.node.states ≠ []) :
    ∃ id c u, (m.state? q).bind State.initial = some c ∧ d.Placed c u ∧ u.parent = some q ∧
      s.node.initial = some id ∧ (id, u.node) ∈ s.node.states ∧ u.path = s.path.child id := by
  obtain ⟨t, ht, hfills⟩ := h.state_of_placed hs
  obtain ⟨id, c, hid, hc, hcompound⟩ := (h.shaped.sound hs.reaches.1).kindAt hstates (q + 1)
  obtain ⟨u, hu, -, hparent, hpath, hmem⟩ := hs.child_of_mem_positions hc
  refine ⟨id, c, u, ?_, hu, hparent, hid, hmem, hpath⟩
  rw [ht, Option.bind_some, State.initial, hfills.kind_eq_kindAt hs, hcompound]

/-! ## Going up -/

/-- With enough fuel the walk to the root does not depend on it. -/
theorem ancestors_eq_lineage (h : m.Realizes d) (hs : d.Placed q s) {fuel : Nat} (hfuel : q ≤ fuel)
    (below : List Nat) : m.ancestors fuel q below = m.lineage q ++ below := by
  induction q using Nat.strong_induction_on generalizing s fuel below with
  | _ q ih =>
    have hparent := h.parent_of_placed hs
    rcases hs.parent_cases with ⟨rfl, hnone, -⟩ | ⟨p, t, ht, hsome, hlt, -⟩
    · rw [hnone] at hparent
      rw [lineage, ancestors]
      cases fuel with
      | zero => rfl
      | succ fuel => rw [ancestors, hparent]; rfl
    · rw [hsome] at hparent
      obtain ⟨k, rfl⟩ := Nat.exists_eq_succ_of_ne_zero (Nat.ne_zero_of_lt hlt)
      obtain ⟨fuel, rfl⟩ := Nat.exists_eq_succ_of_ne_zero (show fuel ≠ 0 by omega)
      -- one step up on both sides leaves enough fuel for the parent, which stands before
      rw [lineage, ancestors, ancestors, hparent]
      show m.ancestors fuel p (k.succ :: below) = m.ancestors k p [k.succ] ++ below
      rw [ih p hlt ht (by omega), ih p hlt ht (by omega), List.append_assoc]
      rfl

/-- The line of a child is the line of its parent with the child at its end. -/
theorem lineage_eq_concat (h : m.Realizes d) (hs : d.Placed q s) {p : Nat}
    (hp : s.parent = some p) : m.lineage q = m.lineage p ++ [q] := by
  rcases hs.parent_cases with ⟨-, hnone, -⟩ | ⟨p', t, ht, hsome, hlt, -⟩
  · rw [hnone] at hp
    cases hp
  · rw [hsome, Option.some.injEq] at hp
    subst hp
    have hparent := h.parent_of_placed hs
    rw [hsome] at hparent
    obtain ⟨k, rfl⟩ := Nat.exists_eq_succ_of_ne_zero (Nat.ne_zero_of_lt hlt)
    rw [lineage, ancestors, hparent]
    exact h.ancestors_eq_lineage ht (by omega) _

theorem head?_lineage (h : m.Realizes d) (hs : d.Placed q s) :
    (m.lineage q).head? = some root := by
  induction hs with
  | root => rfl
  | child hs hstates ih =>
    rw [h.lineage_eq_concat (.child hs hstates) rfl, List.head?_append, ih]
    rfl

theorem getLast?_lineage (h : m.Realizes d) (hs : d.Placed q s) :
    (m.lineage q).getLast? = some q := by
  cases hs with
  | root => rfl
  | child hs hstates =>
    rw [h.lineage_eq_concat (.child hs hstates) rfl]
    exact List.getLast?_concat

theorem lt_size_of_mem_lineage (h : m.Realizes d) (hs : d.Placed q s) :
    ∀ i ∈ m.lineage q, i < m.size := by
  have hlt : ∀ {q s}, d.Placed q s → q < m.size := by
    intro q s hs
    rw [h.size_eq]
    exact hs.lt_size
  induction hs with
  | root =>
    intro i hi
    rw [List.mem_singleton.mp hi]
    exact hlt .root
  | child hs hstates ih =>
    intro i hi
    rw [h.lineage_eq_concat (.child hs hstates) rfl] at hi
    rcases List.mem_append.mp hi with hi | hi
    · exact ih i hi
    · rw [List.mem_singleton.mp hi]
      exact hlt (.child hs hstates)

/-- Along the line each state is the parent of the next one. -/
theorem isChain_lineage (h : m.Realizes d) (hs : d.Placed q s) :
    (m.lineage q).IsChain fun i j => (m.state? j).bind State.parent = some i := by
  induction hs with
  | root => exact List.isChain_singleton _
  | child hs hstates ih =>
    rw [h.lineage_eq_concat (.child hs hstates) rfl]
    refine ih.append (List.isChain_singleton _) ?_
    intro i hi j hj
    rw [h.getLast?_lineage hs] at hi
    cases hi
    cases hj
    exact h.parent_of_placed (.child hs hstates)

/-- The ids along the line are the path of its end. -/
theorem map_id_lineage (h : m.Realizes d) (hs : d.Placed q s) :
    (m.lineage q).map (fun i => (m.state? i).map State.id) = s.path.segments.map some := by
  have hid : ∀ {q s}, d.Placed q s → (m.state? q).map State.id = some s.id := by
    intro q s hs
    obtain ⟨t, ht, hfills⟩ := h.state_of_placed hs
    rw [ht, Option.map_some, hfills.id]
  induction hs with
  | root => exact congrArg (fun id => [id]) (hid .root)
  | child hs hstates ih =>
    rw [h.lineage_eq_concat (.child hs hstates) rfl, List.map_append, ih]
    show _ = List.map some (_ ++ _)
    rw [List.map_append]
    exact congrArg (_ ++ [·]) (hid (.child hs hstates))

/-! ## Going down -/

/-- The walk down from a state ends at a state without children, and prolongs the line of the one to
the line of the other. -/
theorem exists_leaf (h : m.Realizes d) (hs : d.Placed q s) {fuel : Nat}
    (hfuel : m.size ≤ fuel + q) :
    ∃ l u, d.Placed l u ∧ u.node.states = [] ∧
      u.path.segments = s.path.segments ++ s.node.entry ∧
      m.lineage q ++ m.descent fuel q = m.lineage l := by
  induction fuel generalizing q s with
  | zero =>
    -- no state stands behind the last one
    have hlt := hs.lt_size
    rw [← h.size_eq] at hlt
    omega
  | succ fuel ih =>
    have hsound := h.shaped.sound hs.reaches.1
    rw [descent]
    by_cases hstates : s.node.states = []
    · refine ⟨q, s, hs, hstates, ?_, ?_⟩
      · rw [hsound.entry_eq_nil hstates, List.append_nil]
      · rw [h.initial_of_states_nil hs hstates, List.append_nil]
    · obtain ⟨id, c, u, hinitial, hu, hparent, hid, hmem, hpath⟩ :=
        h.initial_of_states_ne_nil hs hstates
      have hlt : q < c := by
        rcases hu.parent_cases with ⟨-, hnone, -⟩ | ⟨p, t, -, hsome, hlt, -⟩
        · rw [hnone] at hparent
          cases hparent
        · rw [hsome, Option.some.injEq] at hparent
          rwa [← hparent]
      obtain ⟨l, v, hv, hleaf, hsegments, hline⟩ := ih hu (by omega)
      refine ⟨l, v, hv, hleaf, ?_, ?_⟩
      · rw [hsegments, hpath, hsound.entry_eq_cons hid hmem, StatePath.segments_child,
          List.append_assoc]
        rfl
      · rw [hinitial, ← hline, h.lineage_eq_concat hu hparent, List.append_assoc]
        rfl

end Realizes

/-! ## Active paths -/

/-- An active path is the line of a state without children, whose path has the given ids. -/
def RestsAt (m : Machine) (d : Definition) (a : ActivePath) (ids : List String) : Prop :=
  ∃ l u, d.Placed l u ∧ u.node.states = [] ∧ u.path.segments = ids ∧ a = ⟨m.lineage l⟩

namespace Realizes

variable {m : Machine} {d : Definition} {q : Nat} {s : Slot} {a : ActivePath} {ids : List String}

theorem enter_eq (h : m.Realizes d) (hs : d.Placed q s) :
    m.enter q = ⟨m.lineage q ++ m.descent m.size q⟩ := by
  have hlt := hs.lt_size
  rw [← h.size_eq] at hlt
  rw [enter, h.ancestors_eq_lineage hs (Nat.le_of_lt hlt), List.append_nil]

/-- Entering a state leads to the state that its ids lead to. -/
theorem restsAt_enter (h : m.Realizes d) (hs : d.Placed q s) :
    m.RestsAt d (m.enter q) (d.entered s.path.segments) := by
  obtain ⟨l, u, hu, hleaf, hsegments, hline⟩ := h.exists_leaf hs (Nat.le_add_right m.size q)
  have hnode : d.node? ⟨s.path.segments⟩ = some s.node :=
    (Definition.node?_eq_some_iff h.shaped).mpr hs.reaches.1
  refine ⟨l, u, hu, hleaf, ?_, ?_⟩
  · rw [hsegments, Definition.entered, hnode]
    rfl
  · rw [h.enter_eq hs, hline]

/-- Entering a state without children enters nothing below it. -/
theorem enter_of_states_nil (h : m.Realizes d) (hs : d.Placed q s) (hstates : s.node.states = []) :
    m.enter q = ⟨m.lineage q⟩ := by
  have hdescent : m.descent m.size q = [] := by
    cases m.size with
    | zero => rfl
    | succ fuel => rw [descent, h.initial_of_states_nil hs hstates]
  rw [h.enter_eq hs, hdescent, List.append_nil]

theorem pathOf_of_restsAt (h : m.Realizes d) (ha : m.RestsAt d a ids) : m.pathOf a = ⟨ids⟩ := by
  obtain ⟨l, u, hu, -, rfl, rfl⟩ := ha
  obtain ⟨t, ht, hfills⟩ := h.state_of_placed hu
  have hleaf : ActivePath.leaf ⟨m.lineage l⟩ = some l := h.getLast?_lineage hu
  have hfound : (ActivePath.leaf ⟨m.lineage l⟩ |>.orElse fun _ => some root).bind m.state? =
      some t := by
    rw [hleaf]
    exact ht
  simp only [pathOf, hfound]
  exact hfills.path

end Realizes

end Machine

end Statechart
