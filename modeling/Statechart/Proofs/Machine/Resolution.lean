import Statechart.Proofs.Machine.Construction
/-!
The second pass of building a machine. Resolving a transition reads the index and the ids, paths and
parents of the states, and writes the table of one state only; so what a transition resolves to is
settled before the pass begins. Main statements: the pass succeeds if and only if every transition
that waits is settled, and then the table of each state holds what its transitions are settled to.
-/

namespace Statechart

/-- A state without its transitions. -/
def State.bare (s : State) : State := { s with transitions := .empty }

/-- States that are the same without their transitions differ in nothing else. -/
theorem State.fields_of_bare {s s' : State} (h : s'.bare = s.bare) :
    s'.id = s.id ∧ s'.path = s.path ∧ s'.parent = s.parent ∧ s'.kind = s.kind := by
  rw [bare, bare, State.mk.injEq] at h
  exact ⟨h.1, h.2.1, h.2.2.1, h.2.2.2.1⟩

namespace Builder

/-- Two builders have the same index and, transitions apart, the same states. -/
structure SameShape (b b' : Builder) : Prop where
  index : b'.index = b.index
  states : ∀ q : Nat, (b'.states[q]?).map State.bare = (b.states[q]?).map State.bare

namespace SameShape

variable {b b' b'' : Builder}

theorem refl (b : Builder) : SameShape b b := ⟨rfl, fun _ => rfl⟩

theorem trans (h : SameShape b b') (h' : SameShape b' b'') : SameShape b b'' :=
  ⟨h'.index.trans h.index, fun q => (h'.states q).trans (h.states q)⟩

/-- A state of the one has a counterpart in the other. -/
theorem exists_state (h : SameShape b b') {q : Nat} {s : State} (hs : b.states[q]? = some s) :
    ∃ s', b'.states[q]? = some s' ∧ s'.bare = s.bare := by
  have hq := h.states q
  rw [hs, Option.map_some] at hq
  exact Option.map_eq_some_iff.mp hq

theorem eq_none (h : SameShape b b') {q : Nat} (hb : b.states[q]? = none) :
    b'.states[q]? = none := by
  have hq := h.states q
  rw [hb, Option.map_none] at hq
  exact Option.map_eq_none_iff.mp hq

end SameShape

/-! ## What a transition is settled to -/

/-- What a transition that waits resolves to. -/
def settled? (b : Builder) (p : Pending) : Option Transition :=
  (b.states[p.node]?).bind fun s => b.resolved? p.node s p.target

/-- Resolving does not look at transitions. -/
theorem denoted?_congr {b b' : Builder} (h : SameShape b b') {node : Nat} {s s' : State}
    (hs : s'.bare = s.bare) (t : Target) : b'.denoted? node s' t = b.denoted? node s t := by
  obtain ⟨hid, hpath, hparent, -⟩ := State.fields_of_bare hs
  cases t with
  | absolute p => rw [denoted?, denoted?, h.index]
  | relative id =>
    rw [denoted?, denoted?, hid, hpath, hparent, h.index]
    cases s.parent with
    | none => rfl
    | some parent =>
      -- of the parent only the path is read
      show (b'.states[parent]?).bind _ = (b.states[parent]?).bind _
      cases hb : b.states[parent]? with
      | none => rw [h.eq_none hb]
      | some scope =>
        obtain ⟨scope', hscope, hbare⟩ := h.exists_state hb
        rw [hscope, Option.bind_some, Option.bind_some, (State.fields_of_bare hbare).2.1]

theorem settled?_congr {b b' : Builder} (h : SameShape b b') (p : Pending) :
    b'.settled? p = b.settled? p := by
  rw [settled?, settled?]
  cases hb : b.states[p.node]? with
  | none => rw [h.eq_none hb, Option.bind_none, Option.bind_none]
  | some s =>
    obtain ⟨s', hs', hbare⟩ := h.exists_state hb
    rw [hs', Option.bind_some, Option.bind_some, resolved?, resolved?]
    simp only [denoted?_congr h hbare]

/-! ## One transition -/

/-- Enters a transition into the table of its state. -/
def settle (b : Builder) (p : Pending) (t : Transition) : Builder :=
  { b with
    states := b.states.modify p.node fun s =>
      { s with transitions := s.transitions.insert p.event t } }

theorem sameShape_settle (b : Builder) (p : Pending) (t : Transition) :
    SameShape b (b.settle p t) := by
  refine ⟨rfl, ?_⟩
  intro q
  show ((b.states.modify p.node _)[q]?).map State.bare = _
  rw [Array.getElem?_modify]
  by_cases hq : p.node = q
  · rw [if_pos hq, Option.map_map]
    rfl
  · rw [if_neg hq]

theorem isSome_states_settle {b : Builder} {p : Pending} {t : Transition} {q : Nat}
    (h : (b.states[q]?).isSome) : ((b.settle p t).states[q]?).isSome := by
  obtain ⟨s, hs⟩ := Option.isSome_iff_exists.mp h
  obtain ⟨s', hs', -⟩ := (sameShape_settle b p t).exists_state hs
  rw [hs']
  rfl

theorem resolve_of_settled? {b : Builder} {p : Pending} {t : Transition}
    (h : b.settled? p = some t) : b.resolve p = .ok (b.settle p t) := by
  obtain ⟨s, hs, ht⟩ := Option.bind_eq_some_iff.mp h
  simp only [resolve, hs, ht]
  rfl

/-- A transition of a state that is there and is not settled is reported. -/
theorem resolve_of_settled?_eq_none {b : Builder} {p : Pending} {s : State}
    (hs : b.states[p.node]? = some s) (h : b.settled? p = none) :
    b.resolve p = .error (.unresolvedTarget s.path.display p.event p.target) := by
  rw [settled?, hs, Option.bind_some] at h
  simp only [resolve, hs, h]

/-! ## All transitions -/

/-- The transition that the table of a state has for an event. -/
def transitionOf (b : Builder) (q : Nat) (event : String) : Option Transition :=
  (b.states[q]?).bind fun s => s.transitions.get? event

theorem transitionOf_settle (b : Builder) (p : Pending) (t : Transition) (q : Nat)
    (event : String) (hq : (b.states[p.node]?).isSome) :
    (b.settle p t).transitionOf q event =
      if p.node = q ∧ event = p.event then some t else b.transitionOf q event := by
  show ((b.states.modify p.node _)[q]?).bind _ = _
  rw [Array.getElem?_modify, transitionOf]
  by_cases hnode : p.node = q
  · subst hnode
    obtain ⟨s, hs⟩ := Option.isSome_iff_exists.mp hq
    rw [if_pos rfl, hs, Option.map_some, Option.bind_some, Option.bind_some]
    show (s.transitions.insert p.event t).get? event = _
    rw [Table.get?_insert]
    simp
  · rw [if_neg hnode, if_neg fun h => hnode h.1]

theorem resolveAll_cons_of_settled? {b : Builder} {p : Pending} {rest : List Pending}
    {t : Transition} (h : b.settled? p = some t) :
    b.resolveAll (p :: rest) = (b.settle p t).resolveAll rest := by
  rw [resolveAll, resolve_of_settled? h]

/-- The pass succeeds if and only if every transition is settled. -/
theorem resolveAll_ok_iff {b : Builder} {ps : List Pending}
    (hstates : ∀ p ∈ ps, (b.states[p.node]?).isSome) :
    (∃ b', b.resolveAll ps = .ok b') ↔ ∀ p ∈ ps, (b.settled? p).isSome := by
  induction ps generalizing b with
  | nil => simp [resolveAll]
  | cons p rest ih =>
    rw [List.forall_mem_cons] at hstates ⊢
    cases h : b.settled? p with
    | none =>
      obtain ⟨s, hs⟩ := Option.isSome_iff_exists.mp hstates.1
      rw [resolveAll, resolve_of_settled?_eq_none hs h]
      simp
    | some t =>
      -- what the rest is settled to is the same before and after this transition is entered
      have hshape := sameShape_settle b p t
      have hrest := fun p' hp' => isSome_states_settle (t := t) (p := p) (hstates.2 p' hp')
      rw [resolveAll_cons_of_settled? h, ih hrest]
      simp only [settled?_congr hshape, Option.isSome_some, true_and]

/-- The pass fails at the first transition that is not settled. -/
theorem exists_of_resolveAll_eq_error {b : Builder} {ps : List Pending} {e : DefinitionError}
    (hstates : ∀ p ∈ ps, (b.states[p.node]?).isSome) (h : b.resolveAll ps = .error e) :
    ∃ front p back s, ps = front ++ p :: back ∧ (∀ p' ∈ front, (b.settled? p').isSome) ∧
      b.settled? p = none ∧ b.states[p.node]? = some s ∧
      e = .unresolvedTarget s.path.display p.event p.target := by
  induction ps generalizing b with
  | nil => cases h
  | cons p rest ih =>
    rw [List.forall_mem_cons] at hstates
    cases hp : b.settled? p with
    | none =>
      obtain ⟨s, hs⟩ := Option.isSome_iff_exists.mp hstates.1
      rw [resolveAll, resolve_of_settled?_eq_none hs hp] at h
      cases h
      exact ⟨[], p, rest, s, rfl, List.forall_mem_nil _, hp, hs, rfl⟩
    | some t =>
      -- what the rest is settled to, and the paths of the states, are the same afterwards
      have hshape := sameShape_settle b p t
      rw [resolveAll_cons_of_settled? hp] at h
      obtain ⟨front, p', back, s', rfl, hfront, hp', hs', rfl⟩ :=
        ih (fun p' hp' => isSome_states_settle (hstates.2 p' hp')) h
      have hmem : p' ∈ front ++ p' :: back := List.mem_append_right _ List.mem_cons_self
      obtain ⟨s, hs⟩ := Option.isSome_iff_exists.mp (hstates.2 p' hmem)
      obtain ⟨s'', hs'', hbare⟩ := hshape.exists_state hs
      rw [hs', Option.some.injEq] at hs''
      subst hs''
      simp only [settled?_congr hshape] at hfront hp'
      refine ⟨p :: front, p', back, s, rfl, ?_, hp', hs, ?_⟩
      · exact List.forall_mem_cons.mpr ⟨Option.isSome_iff_exists.mpr ⟨t, hp⟩, hfront⟩
      · rw [(State.fields_of_bare hbare).2.1]

/-- Nothing but tables is changed by the pass. -/
theorem sameShape_resolveAll {b b' : Builder} {ps : List Pending}
    (h : b.resolveAll ps = .ok b') : SameShape b b' := by
  induction ps generalizing b with
  | nil =>
    cases h
    exact .refl _
  | cons p rest ih =>
    cases hp : b.settled? p with
    | some t =>
      rw [resolveAll_cons_of_settled? hp] at h
      exact (sameShape_settle b p t).trans (ih h)
    | none =>
      cases hs : b.states[p.node]? with
      | none =>
        rw [resolveAll, resolve, hs] at h
        exact ih h
      | some s =>
        rw [resolveAll, resolve_of_settled?_eq_none hs hp] at h
        cases h

/-- Transitions that are settled go through one after the other. -/
theorem exists_settle_of_resolveAll {b b' : Builder} {p : Pending} {rest : List Pending}
    (hp : (b.states[p.node]?).isSome) (h : b.resolveAll (p :: rest) = .ok b') :
    ∃ t, b.settled? p = some t ∧ (b.settle p t).resolveAll rest = .ok b' := by
  obtain ⟨s, hs⟩ := Option.isSome_iff_exists.mp hp
  cases ht : b.settled? p with
  | some t => exact ⟨t, rfl, by rw [← resolveAll_cons_of_settled? ht, h]⟩
  | none =>
    rw [resolveAll, resolve_of_settled?_eq_none hs ht] at h
    cases h

/-- The table of a state is not touched where no transition waits. -/
theorem transitionOf_resolveAll_of_forall_ne {b b' : Builder} {ps : List Pending}
    (hstates : ∀ p ∈ ps, (b.states[p.node]?).isSome) (h : b.resolveAll ps = .ok b') {q : Nat}
    {event : String} (hne : ∀ p ∈ ps, ¬(p.node = q ∧ event = p.event)) :
    b'.transitionOf q event = b.transitionOf q event := by
  induction ps generalizing b with
  | nil =>
    cases h
    rfl
  | cons p rest ih =>
    rw [List.forall_mem_cons] at hstates hne
    obtain ⟨t, -, hrest⟩ := exists_settle_of_resolveAll hstates.1 h
    rw [ih (fun p' hp' => isSome_states_settle (hstates.2 p' hp')) hrest hne.2,
      transitionOf_settle b p t q event hstates.1, if_neg hne.1]

/-- A transition that is the only one of its state for its event ends up in the table. -/
theorem transitionOf_resolveAll_of_mem {b b' : Builder} {ps : List Pending}
    (hstates : ∀ p ∈ ps, (b.states[p.node]?).isSome) (h : b.resolveAll ps = .ok b') {p : Pending}
    (hp : p ∈ ps) (honly : ∀ p' ∈ ps, p'.node = p.node → p.event = p'.event → p' = p) :
    b'.transitionOf p.node p.event = b.settled? p := by
  induction ps generalizing b with
  | nil => cases hp
  | cons p' rest ih =>
    rw [List.forall_mem_cons] at hstates honly
    obtain ⟨t, ht, hrest⟩ := exists_settle_of_resolveAll hstates.1 h
    have hrestStates := fun p'' hp'' => isSome_states_settle (t := t) (p := p') (hstates.2 p'' hp'')
    by_cases hmem : p ∈ rest
    · rw [ih hrestStates hrest hmem honly.2, settled?_congr (sameShape_settle b p' t)]
    · -- it is the first one, and nothing behind it writes to the same place
      have heq : p = p' := (List.mem_cons.mp hp).resolve_right hmem
      subst heq
      have hne : ∀ p'' ∈ rest, ¬(p''.node = p.node ∧ p.event = p''.event) := by
        intro p'' hp'' hparts
        obtain ⟨hnode, hevent⟩ := hparts
        rw [honly.2 p'' hp'' hnode hevent] at hp''
        exact hmem hp''
      rw [transitionOf_resolveAll_of_forall_ne hrestStates hrest hne,
        transitionOf_settle b p t p.node p.event hstates.1, if_pos ⟨rfl, rfl⟩, ht]

end Builder

end Statechart
