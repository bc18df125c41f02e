import Statechart.Proofs.Definition.Rearrangement
import Statechart.Proofs.Machine.Preorder
import Statechart.Proofs.Machine.Renumbering
import Mathlib.Data.List.Nodup
import Mathlib.Data.Finset.Card
/-!
Machines of definitions that differ in the order of sibling states. A state of the one corresponds to
the state of the other with the same path. Main statement: this correspondence is one to one, and it
renumbers the one machine into the other.
-/

namespace Statechart

/-- The position in the machine `m'` of the state that has the path of the state of `m` at `q`. -/
def Machine.counterpart (m m' : Machine) (q : Nat) : Nat :=
  ((m.state? q).bind fun s => m'.index? s.path.display).getD q

namespace Machine

variable {m m' : Machine} {d d' : Definition} {q q' : Nat} {s s' : Slot} {t t' : State}

/-- Two machines of definitions that differ in the order of sibling states. -/
structure Paired (m m' : Machine) (d d' : Definition) : Prop where
  rearranged : d.Rearranged d'
  first : m.Realizes d
  second : m'.Realizes d'

theorem lt_size_iff (hm : m.Realizes d) : q < m.size ↔ ∃ s, d.Placed q s := by
  constructor
  · intro hq
    obtain ⟨s, hs, -⟩ := hm.placed_of_state (Array.getElem?_eq_getElem hq)
    exact ⟨s, hs⟩
  · intro hexists
    obtain ⟨s, hs⟩ := hexists
    rw [hm.size_eq]
    exact hs.lt_size

theorem mem_children_iff_placed (hm : m.Realizes d) (hs : d.Placed q s) (ht : Fills t s) {c : Nat} :
    c ∈ t.children ↔ ∃ v, d.Placed c v ∧ v.parent = some q := by
  rw [hm.mem_children_iff hs ht]
  constructor
  · intro hexists
    obtain ⟨u, hu, hparent⟩ := hexists
    obtain ⟨v, hv, hfills⟩ := hm.placed_of_state hu
    exact ⟨v, hv, hfills.parent.symm.trans hparent⟩
  · intro hexists
    obtain ⟨v, hv, hparent⟩ := hexists
    obtain ⟨u, hu, hfills⟩ := hm.state_of_placed hv
    exact ⟨u, hu, hfills.parent.trans hparent⟩

theorem counterpart_of_state?_eq_none (h : m.state? q = none) : m.counterpart m' q = q := by
  rw [counterpart, h]
  rfl

namespace Paired

theorem symm (h : Paired m m' d d') : Paired m' m d' d := ⟨h.rearranged.symm, h.second, h.first⟩

/-! ## Corresponding slots -/

/-- Slots with the same path belong to corresponding nodes. -/
theorem node (h : Paired m m' d d') (hs : d.Placed q s) (hs' : d'.Placed q' s')
    (hpath : s'.path = s.path) : s.node.Rearranged s'.node := by
  obtain ⟨n', hn', hnode⟩ := h.rearranged.exists_reaches hs.reaches.1
  have hreaches := hs'.reaches.1
  rw [hpath] at hreaches
  rwa [hreaches.unique h.second.shaped hn']

theorem counterpart_eq (h : Paired m m' d d') (hs : d.Placed q s) (hs' : d'.Placed q' s')
    (hpath : s'.path = s.path) : m.counterpart m' q = q' := by
  obtain ⟨t, ht, hfills⟩ := h.first.state_of_placed hs
  have hindex : m'.index? t.path.display = some q' :=
    (h.second.index _ _).mpr ⟨s', hs', by rw [hfills.path, hpath]⟩
  rw [counterpart, ht, Option.bind_some, hindex]
  rfl

/-- A slot has a counterpart with the same path. -/
theorem exists_placed (h : Paired m m' d d') (hs : d.Placed q s) :
    ∃ s', d'.Placed (m.counterpart m' q) s' ∧ s'.path = s.path := by
  obtain ⟨n', hn', -⟩ := h.rearranged.exists_reaches hs.reaches.1
  obtain ⟨q', s', hs', hpath, -⟩ := hn'.placed
  rw [h.counterpart_eq hs hs' hpath]
  exact ⟨s', hs', hpath⟩

/-- Going over to the other machine and back ends where it began. -/
theorem counterpart_counterpart (h : Paired m m' d d') (hs : d.Placed q s) :
    m'.counterpart m (m.counterpart m' q) = q := by
  obtain ⟨s', hs', hpath⟩ := h.exists_placed hs
  exact h.symm.counterpart_eq hs' hs hpath.symm

/-- The states of the one machine correspond to those of the other one to one. -/
theorem bijOn_counterpart (h : Paired m m' d d') :
    Set.BijOn (m.counterpart m') {q | q < m.size} {q | q < m'.size} := by
  refine ⟨?_, ?_, ?_⟩
  · intro q hq
    obtain ⟨s, hs⟩ := (lt_size_iff h.first).mp hq
    obtain ⟨s', hs', -⟩ := h.exists_placed hs
    exact (lt_size_iff h.second).mpr ⟨s', hs'⟩
  · intro q hq p hp heq
    obtain ⟨s, hs⟩ := (lt_size_iff h.first).mp hq
    obtain ⟨t, ht⟩ := (lt_size_iff h.first).mp hp
    rw [← h.counterpart_counterpart hs, heq, h.counterpart_counterpart ht]
  · intro q' hq'
    obtain ⟨s', hs'⟩ := (lt_size_iff h.second).mp hq'
    obtain ⟨s, hs, -⟩ := h.symm.exists_placed hs'
    exact ⟨m'.counterpart m q', (lt_size_iff h.first).mpr ⟨s, hs⟩,
      h.symm.counterpart_counterpart hs'⟩

theorem size_eq (h : Paired m m' d d') : m'.size = m.size := by
  have hrange : Set.BijOn (m.counterpart m') (Finset.range m.size) (Finset.range m'.size) := by
    rw [Finset.coe_range, Finset.coe_range]
    exact h.bijOn_counterpart
  have hcard := Finset.card_nbij _ hrange.mapsTo hrange.injOn hrange.surjOn
  rwa [Finset.card_range, Finset.card_range, eq_comm] at hcard

/-! ## Corresponding states -/

/-- Corresponding states have corresponding parents. -/
theorem parent_eq (h : Paired m m' d d') (hs : d.Placed q s) (hs' : d'.Placed q' s')
    (hpath : s'.path = s.path) : s'.parent = s.parent.map (m.counterpart m') := by
  have hid := h.rearranged.id
  rcases hs.parent_cases with ⟨-, hparent, -, hroot, -⟩ | ⟨p, u, hu, hparent, -, hchild, -⟩
  · rcases hs'.parent_cases with ⟨-, hparent', -⟩ | ⟨p', u', hu', -, -, hchild', -⟩
    · rw [hparent, hparent', Option.map_none]
    · -- the path of a child is longer than that of the root
      have heq : u'.path.child s'.id = d'.rootPath := by
        rw [← hchild', hpath, hroot, Definition.rootPath, hid, Definition.rootPath]
      exact absurd heq (hu'.child_ne_rootPath _)
  · rcases hs'.parent_cases with ⟨-, -, -, hroot', -⟩ | ⟨p', u', hu', hparent', -, hchild', -⟩
    · have heq : u.path.child s.id = d.rootPath := by
        rw [← hchild, ← hpath, hroot', Definition.rootPath, ← hid, Definition.rootPath]
      exact absurd heq (hu.child_ne_rootPath _)
    · have hsegments : u'.path.segments ++ [s'.id] = u.path.segments ++ [s.id] := by
        have hpaths := hchild'.symm.trans (hpath.trans hchild)
        exact congrArg StatePath.segments hpaths
      have hu'u : u'.path = u.path := StatePath.ext (List.append_inj' hsegments rfl).1
      rw [hparent, hparent', Option.map_some, h.counterpart_eq hu hu' hu'u]

/-- Corresponding states have corresponding initial children. -/
theorem initial_eq (h : Paired m m' d d') (hs : d.Placed q s) (hs' : d'.Placed q' s')
    (hpath : s'.path = s.path) :
    (m'.state? q').bind State.initial =
      ((m.state? q).bind State.initial).map (m.counterpart m') := by
  have hnode := h.node hs hs' hpath
  by_cases hstates : s.node.states = []
  · have hstates' : s'.node.states = [] := hnode.states_eq_nil_iff.mp hstates
    rw [h.first.initial_of_states_nil hs hstates, h.second.initial_of_states_nil hs' hstates',
      Option.map_none]
  · have hstates' : s'.node.states ≠ [] := mt hnode.states_eq_nil_iff.mpr hstates
    obtain ⟨id, c, u, hinitial, hu, -, hid, -, hchild⟩ :=
      h.first.initial_of_states_ne_nil hs hstates
    obtain ⟨id', c', u', hinitial', hu', -, hid', -, hchild'⟩ :=
      h.second.initial_of_states_ne_nil hs' hstates'
    have hsame : u'.path = u.path := by
      rw [← hnode.initial_eq, hid, Option.some.injEq] at hid'
      rw [hchild, hchild', hpath, hid']
    rw [hinitial, hinitial', Option.map_some, h.counterpart_eq hu hu' hsame]

/-- Corresponding states have corresponding transitions. -/
theorem transitionAt_eq (h : Paired m m' d d') (hs : d.Placed q s) (hs' : d'.Placed q' s')
    (hpath : s'.path = s.path) (event : String) :
    m'.transitionAt event q' =
      (m.transitionAt event q).map (Transition.renumber (m.counterpart m')) := by
  have hon := (h.node hs hs' hpath).on_eq
  cases htarget : s.node.on.get? event with
  | none =>
    rw [h.first.transition_none hs htarget, h.second.transition_none hs' (hon ▸ htarget),
      Option.map_none]
  | some target =>
    obtain ⟨t, ht, hparse, u, hu, hsegments⟩ := h.first.transition_some hs htarget
    obtain ⟨t', ht', hparse', u', hu', hsegments'⟩ :=
      h.second.transition_some hs' (hon ▸ htarget)
    have htargets : t.target = t'.target := Option.some.inj (hparse.symm.trans hparse')
    have hsame : u'.path = u.path := by
      rw [hpath, ← h.rearranged.targetOf_eq] at hsegments'
      exact StatePath.ext (hsegments'.trans hsegments.symm)
    rw [ht, ht', Option.map_some, Transition.renumber, htargets, h.counterpart_eq hu hu' hsame]

theorem counterpart_mem_children (h : Paired m m' d d') (hs : d.Placed q s)
    (hs' : d'.Placed q' s') (hpath : s'.path = s.path) (ht : Fills t s) (ht' : Fills t' s') {c : Nat}
    (hc : c ∈ t.children) : m.counterpart m' c ∈ t'.children := by
  obtain ⟨v, hv, hparent⟩ := (mem_children_iff_placed h.first hs ht).mp hc
  obtain ⟨v', hv', hsame⟩ := h.exists_placed hv
  refine (mem_children_iff_placed h.second hs' ht').mpr ⟨v', hv', ?_⟩
  rw [h.parent_eq hv hv' hsame, hparent, Option.map_some, h.counterpart_eq hs hs' hpath]

/-- Corresponding states have corresponding children, in some order. -/
theorem children_perm (h : Paired m m' d d') (hs : d.Placed q s) (hs' : d'.Placed q' s')
    (hpath : s'.path = s.path) (ht : Fills t s) (ht' : Fills t' s') :
    t'.children.Perm (t.children.map (m.counterpart m')) := by
  have hnodup : t.children.Nodup := (h.first.standsFor hs ht).children_sorted.imp Nat.ne_of_lt
  have hnodup' : t'.children.Nodup :=
    (h.second.standsFor hs' ht').children_sorted.imp Nat.ne_of_lt
  have hback : ∀ c ∈ t.children, m'.counterpart m (m.counterpart m' c) = c := by
    intro c hc
    obtain ⟨v, hv, -⟩ := (mem_children_iff_placed h.first hs ht).mp hc
    exact h.counterpart_counterpart hv
  have hmap : (t.children.map (m.counterpart m')).Nodup := by
    refine List.Nodup.map_on ?_ hnodup
    intro c hc e he heq
    rw [← hback c hc, heq, hback e he]
  rw [List.perm_ext_iff_of_nodup hnodup' hmap]
  intro c'
  rw [List.mem_map]
  constructor
  · intro hc'
    obtain ⟨v', hv', -⟩ := (mem_children_iff_placed h.second hs' ht').mp hc'
    exact ⟨m'.counterpart m c', h.symm.counterpart_mem_children hs' hs hpath.symm ht' ht hc',
      h.symm.counterpart_counterpart hv'⟩
  · intro hexists
    obtain ⟨c, hc, rfl⟩ := hexists
    exact h.counterpart_mem_children hs hs' hpath ht ht' hc

/-- The state with the same path is the same state, under the positions of the other machine. -/
theorem state_renumbered (h : Paired m m' d d') (hs : d.Placed q s) (hs' : d'.Placed q' s')
    (hpath : s'.path = s.path) (hq : m.state? q = some t) (hq' : m'.state? q' = some t')
    (ht : Fills t s) (ht' : Fills t' s') : t.Renumbered (m.counterpart m') t' := by
  have hinitial : t'.initial = t.initial.map (m.counterpart m') := by
    have hbind := h.initial_eq hs hs' hpath
    rwa [hq, hq', Option.bind_some, Option.bind_some] at hbind
  have hatomic : ∀ u : State, u.isAtomic = u.initial.isNone := by
    intro u
    rw [State.isAtomic, State.initial]
    cases u.kind <;> rfl
  refine ⟨?_, ?_, ?_, ?_, hinitial, h.children_perm hs hs' hpath ht ht', ?_⟩
  · have hid := hs'.reaches.2
    rw [hpath, hs.reaches.2, Option.some.injEq] at hid
    rw [ht'.id, ht.id, hid]
  · rw [ht'.path, ht.path, hpath]
  · rw [ht'.parent, ht.parent, h.parent_eq hs hs' hpath]
  · rw [hatomic, hatomic, hinitial, Option.isNone_map]
  · refine Table.ext_get? fun event => ?_
    have htransition := h.transitionAt_eq hs hs' hpath event
    rw [transitionAt, transitionAt, hq, hq'] at htransition
    rw [Table.get?_map]
    exact htransition

theorem states_renumbered (h : Paired m m' d d') (q : Nat) :
    Option.Rel (State.Renumbered (m.counterpart m')) (m.state? q)
      (m'.state? (m.counterpart m' q)) := by
  cases ht : m.state? q with
  | none =>
    rw [counterpart_of_state?_eq_none ht]
    have hle : m'.states.size ≤ q := h.size_eq.trans_le (Array.getElem?_eq_none_iff.mp ht)
    rw [state?, Array.getElem?_eq_none hle]
    exact .none
  | some t =>
    obtain ⟨s, hs, hfills⟩ := h.first.placed_of_state ht
    obtain ⟨s', hs', hpath⟩ := h.exists_placed hs
    obtain ⟨t', ht', hfills'⟩ := h.second.state_of_placed hs'
    rw [ht']
    exact .some (h.state_renumbered hs hs' hpath ht ht' hfills hfills')

theorem index?_eq (h : Paired m m' d d') (text : String) :
    m'.index? text = (m.index? text).map (m.counterpart m') := by
  cases hindex : m.index? text with
  | some q =>
    obtain ⟨s, hs, hdisplay⟩ := (h.first.index _ _).mp hindex
    obtain ⟨s', hs', hpath⟩ := h.exists_placed hs
    exact (h.second.index _ _).mpr ⟨s', hs', by rw [hpath, hdisplay]⟩
  | none =>
    -- a text that the other machine found would be found here as well
    rw [Option.map_none, Option.eq_none_iff_forall_not_mem]
    intro q' hq'
    obtain ⟨s', hs', hdisplay⟩ := (h.second.index _ _).mp hq'
    obtain ⟨s, hs, hpath⟩ := h.symm.exists_placed hs'
    rw [(h.first.index _ _).mpr ⟨s, hs, by rw [hpath, hdisplay]⟩] at hindex
    cases hindex

end Paired

/-- Machines of definitions that differ in the order of sibling states differ in the positions of
their states. -/
theorem renumbered_of_rearranged (h : d.Rearranged d') (hm : m.Realizes d) (hm' : m'.Realizes d') :
    m.Renumbered (m.counterpart m') m' := by
  have hpaired : Paired m m' d d' := ⟨h, hm, hm'⟩
  refine ⟨?_, hpaired.size_eq, hpaired.bijOn_counterpart, ?_, hpaired.states_renumbered,
    hpaired.index?_eq⟩
  · rw [id, id, hm.definition, hm'.definition, h.id]
  · refine hpaired.counterpart_eq .root .root ?_
    show d'.rootPath = d.rootPath
    rw [Definition.rootPath, Definition.rootPath, h.id]

end Machine

end Statechart
