import Statechart.Proofs.Machine.Handling
import Mathlib.Data.Set.Function
/-!
Machines that differ only in the positions at which their states stand. Nothing that a machine does
looks at positions as numbers: entering, looking up and handling events lead from corresponding states
to corresponding states, and paths and events are the same.
-/

namespace Statechart

/-! ## Things under other positions -/

/-- A transition whose node stands elsewhere. -/
def Transition.renumber (f : Nat → Nat) (t : Transition) : Transition := ⟨t.target, f t.node⟩

/-- An active path whose states stand elsewhere. -/
def ActivePath.renumber (f : Nat → Nat) (a : ActivePath) : ActivePath := ⟨a.nodes.map f⟩

/-- A resolution whose states stand elsewhere. -/
def Resolution.renumber (f : Nat → Nat) (r : Resolution) : Resolution :=
  ⟨r.source.map f, r.active.renumber f⟩

/-- The state `t` is the state `s` with all positions replaced; its children may stand in another
order. -/
structure State.Renumbered (f : Nat → Nat) (s t : State) : Prop where
  id : t.id = s.id
  path : t.path = s.path
  parent : t.parent = s.parent.map f
  isAtomic : t.isAtomic = s.isAtomic
  initial : t.initial = s.initial.map f
  children : t.children.Perm (s.children.map f)
  transitions : t.transitions = s.transitions.map (Transition.renumber f)

/-- The machine `m'` is the machine `m` with its states at other positions. -/
structure Machine.Renumbered (f : Nat → Nat) (m m' : Machine) : Prop where
  id : m'.id = m.id
  size : m'.size = m.size
  bijOn : Set.BijOn f {q | q < m.size} {q | q < m'.size}
  root : f Machine.root = Machine.root
  states : ∀ q, Option.Rel (State.Renumbered f) (m.state? q) (m'.state? (f q))
  index : ∀ text, m'.index? text = (m.index? text).map f

namespace Machine.Renumbered

variable {f : Nat → Nat} {m m' : Machine}

/-- What is read off the states in a way that follows the positions corresponds. -/
theorem bind_state? {α β : Type} (h : m.Renumbered f m') {g : State → Option α}
    {g' : State → Option β} {k : α → β}
    (hg : ∀ s t, s.Renumbered f t → g' t = (g s).map k) (q : Nat) :
    (m'.state? (f q)).bind g' = ((m.state? q).bind g).map k := by
  have hq := h.states q
  cases hs : m.state? q with
  | none =>
    rw [hs] at hq
    cases ht : m'.state? (f q) with
    | none => rfl
    | some t => rw [ht] at hq; cases hq
  | some s =>
    rw [hs] at hq
    obtain ⟨t, ht, hst⟩ := rel_some_left_iff.mp hq
    rw [ht]
    exact hg s t hst

/-- What does not depend on positions is the same. -/
theorem map_state? {α : Type} (h : m.Renumbered f m') {g : State → α}
    (hg : ∀ s t, s.Renumbered f t → g t = g s) (q : Nat) :
    (m'.state? (f q)).map g = (m.state? q).map g := by
  rw [Option.map_eq_bind, Option.map_eq_bind]
  have hbind : (m'.state? (f q)).bind (some ∘ g) = ((m.state? q).bind (some ∘ g)).map fun x => x :=
    h.bind_state? (fun s t hst => congrArg some (hg s t hst)) q
  rwa [Option.map_id'] at hbind

/-! ## Entering -/

theorem ancestors_eq (h : m.Renumbered f m') (fuel q : Nat) (below : List Nat) :
    m'.ancestors fuel (f q) (below.map f) = (m.ancestors fuel q below).map f := by
  induction fuel generalizing q below with
  | zero => rfl
  | succ fuel ih =>
    have hparent := h.bind_state? (fun _ _ hst => hst.parent) q
    rw [ancestors, ancestors, hparent]
    cases (m.state? q).bind State.parent with
    | none => rfl
    | some p => exact ih p (q :: below)

theorem descent_eq (h : m.Renumbered f m') (fuel q : Nat) :
    m'.descent fuel (f q) = (m.descent fuel q).map f := by
  induction fuel generalizing q with
  | zero => rfl
  | succ fuel ih =>
    have hinitial := h.bind_state? (fun _ _ hst => hst.initial) q
    rw [descent, descent, hinitial]
    cases (m.state? q).bind State.initial with
    | none => rfl
    | some c =>
      rw [List.map_cons, ← ih c]
      rfl

theorem enter_eq (h : m.Renumbered f m') (q : Nat) : m'.enter (f q) = (m.enter q).renumber f := by
  have hancestors := h.ancestors_eq m.size q []
  rw [List.map_nil] at hancestors
  rw [enter, enter, ActivePath.renumber, h.size, hancestors, h.descent_eq, List.map_append]

theorem initialPath_eq (h : m.Renumbered f m') : m'.initialPath = m.initialPath.renumber f := by
  rw [initialPath, initialPath, ← h.enter_eq, h.root]

theorem pathOf_eq (h : m.Renumbered f m') (a : ActivePath) :
    m'.pathOf (a.renumber f) = m.pathOf a := by
  have hroot : m'.definition.rootPath = m.definition.rootPath :=
    congrArg (fun id => (⟨[id]⟩ : StatePath)) h.id
  have hpath : ∀ n : Machine, ∀ b : ActivePath, n.pathOf b =
      ((n.state? (b.leaf.getD Machine.root)).map State.path).getD n.definition.rootPath := by
    intro n b
    rw [pathOf]
    cases b.leaf with
    | none => cases h : n.state? Machine.root <;> simp [h]
    | some l => cases h : n.state? l <;> simp [h]
  have hleaf : (a.renumber f).leaf.getD Machine.root = f (a.leaf.getD Machine.root) := by
    rw [ActivePath.leaf, ActivePath.leaf, ActivePath.renumber, List.getLast?_map]
    cases a.nodes.getLast? with
    | none => exact h.root.symm
    | some l => rfl
  rw [hpath, hpath, hleaf, hroot, h.map_state? fun _ _ hst => hst.path]

/-! ## Looking up -/

theorem lookup_eq (h : m.Renumbered f m') (text : String) :
    m'.lookup text = (m.lookup text).map f := by
  rw [lookup, lookup, h.index, h.index, h.id]
  cases m.index? (stripHash text) <;> rfl

/-! ## Handling events -/

theorem transitionAt_eq (h : m.Renumbered f m') (event : String) (q : Nat) :
    m'.transitionAt event (f q) = (m.transitionAt event q).map (Transition.renumber f) := by
  refine h.bind_state? ?_ q
  intro s t hst
  rw [hst.transitions, Table.get?_map]

theorem handler?_eq (h : m.Renumbered f m') (event : String) (nodes : List Nat) :
    m'.handler? event (nodes.map f) = (m.handler? event nodes).map (Prod.map f f) := by
  induction nodes using List.reverseRecOn with
  | nil => rfl
  | append_singleton nodes q ih =>
    rw [List.map_append, List.map_singleton, handler?_concat, handler?_concat, h.transitionAt_eq, ih]
    cases m.transitionAt event q <;> rfl

theorem transition_eq (h : m.Renumbered f m') (a : ActivePath) (event : String) :
    m'.transition (a.renumber f) event = (m.transition a event).renumber f := by
  rw [transition_eq_handler?, transition_eq_handler?, ActivePath.renumber, h.handler?_eq]
  cases m.handler? event a.nodes with
  | none => rfl
  | some found => exact congrArg (Resolution.mk _) (h.enter_eq found.2)

theorem eventsFor_eq (h : m.Renumbered f m') (a : ActivePath) :
    m'.eventsFor (a.renumber f) = m.eventsFor a := by
  have hsame : ∀ s t : State, s.Renumbered f t → t.transitions.keys = s.transitions.keys := by
    intro s t hst
    rw [hst.transitions, Table.keys_map]
  rw [eventsFor_eq_keys, eventsFor_eq_keys, ActivePath.renumber, List.flatMap_map]
  simp only [h.map_state? hsame]

end Machine.Renumbered

end Statechart
