import Statechart.Proofs.Machine.Built
/-!
Definitions that differ in the order of sibling states. Such definitions have the same chains of ids,
and at the end of each chain nodes that differ in the order of their children at most. Main
statement: one of them is accepted if and only if the other is.
-/

namespace Statechart

namespace Node

/-- Two nodes that differ only in the order of child states, at any number of places below them. -/
inductive Rearranged : Node → Node → Prop
  | perm {initial : Option String} {states states' : List (String × Node)} {on : Table String}
      (h : states.Perm states') : Rearranged (mk initial states on) (mk initial states' on)
  | child {initial : Option String} {before after : List (String × Node)} {on : Table String}
      {id : String} {n n' : Node} (h : Rearranged n n') :
      Rearranged (mk initial (before ++ (id, n) :: after) on)
        (mk initial (before ++ (id, n') :: after) on)
  | trans {n₁ n₂ n₃ : Node} (h : Rearranged n₁ n₂) (h' : Rearranged n₂ n₃) : Rearranged n₁ n₃

namespace Rearranged

variable {n n' m : Node} {ids : List String}

theorem refl (n : Node) : n.Rearranged n := by
  cases n
  exact .perm (.refl _)

theorem symm (h : n.Rearranged n') : n'.Rearranged n := by
  induction h with
  | perm h => exact .perm h.symm
  | child _ ih => exact .child ih
  | trans _ _ ih ih' => exact .trans ih' ih

theorem initial_eq (h : n.Rearranged n') : n.initial = n'.initial := by
  induction h with
  | perm _ => rfl
  | child _ _ => rfl
  | trans _ _ ih ih' => exact ih.trans ih'

theorem on_eq (h : n.Rearranged n') : n.on = n'.on := by
  induction h with
  | perm _ => rfl
  | child _ _ => rfl
  | trans _ _ ih ih' => exact ih.trans ih'

/-- The children have the same ids, in some order. -/
theorem map_fst_perm (h : n.Rearranged n') :
    (n.states.map Prod.fst).Perm (n'.states.map Prod.fst) := by
  induction h with
  | perm h => exact h.map _
  | @child _ before after _ id n n' _ _ =>
    rw [states_mk, states_mk, List.map_append, List.map_append, List.map_cons, List.map_cons]
  | trans _ _ ih ih' => exact ih.trans ih'

theorem states_eq_nil_iff (h : n.Rearranged n') : n.states = [] ↔ n'.states = [] := by
  have hlength : n.states.length = n'.states.length := by
    simpa using h.map_fst_perm.length_eq
  rw [← List.length_eq_zero_iff, ← List.length_eq_zero_iff, hlength]

/-- Every child of the one is a child of the other, rearranged below. -/
theorem exists_child (h : n.Rearranged n') {id : String} {c : Node} (hc : (id, c) ∈ n.states) :
    ∃ c', (id, c') ∈ n'.states ∧ c.Rearranged c' := by
  induction h generalizing c with
  | perm h => exact ⟨c, h.mem_iff.mp hc, .refl c⟩
  | @child _ before after _ id' n n' h _ =>
    rw [states_mk, List.mem_append, List.mem_cons] at hc
    rw [states_mk]
    -- the child that was rearranged, or one beside it
    rcases hc with hc | hc | hc
    · exact ⟨c, List.mem_append_left _ hc, .refl c⟩
    · cases hc
      exact ⟨n', List.mem_append_right _ List.mem_cons_self, h⟩
    · exact ⟨c, List.mem_append_right _ (List.mem_cons_of_mem _ hc), .refl c⟩
  | trans _ _ ih ih' =>
    obtain ⟨c', hc', hcc'⟩ := ih hc
    obtain ⟨c'', hc'', hcc''⟩ := ih' hc'
    exact ⟨c'', hc'', hcc'.trans hcc''⟩

/-- A chain of ids that leads somewhere in the one leads to the same place in the other. -/
theorem exists_reaches (h : n.Rearranged n') (hm : n.Reaches ids m) :
    ∃ m', n'.Reaches ids m' ∧ m.Rearranged m' := by
  induction hm generalizing n' with
  | refl n => exact ⟨n', .refl n', h⟩
  | step hc _ ih =>
    obtain ⟨c', hc', hcc'⟩ := h.exists_child hc
    obtain ⟨m', hm', hmm'⟩ := ih hcc'
    exact ⟨m', .step hc' hm', hmm'⟩

/-- The rules for one node do not look at the order of its children. -/
theorem sound (h : n.Rearranged n') (hn : n.Sound) : n'.Sound where
  ids id hid := hn.ids id (h.map_fst_perm.mem_iff.mpr hid)
  distinct := h.map_fst_perm.nodup_iff.mp hn.distinct
  initial_iff := by
    rw [← h.initial_eq, hn.initial_iff, ne_eq, ne_eq, h.states_eq_nil_iff]
  initial_mem id hid := by
    rw [← h.initial_eq] at hid
    exact h.map_fst_perm.mem_iff.mp (hn.initial_mem id hid)

theorem shaped (h : n.Rearranged n') (hn : n.Shaped) : n'.Shaped := by
  intro ids m' hm'
  obtain ⟨m, hm, hmm'⟩ := h.symm.exists_reaches hm'
  exact hmm'.symm.sound (hn ids m hm)

end Rearranged

end Node

namespace Definition

/-- Two definitions that differ only in the order of child states, at any number of nodes. -/
structure Rearranged (d d' : Definition) : Prop where
  id : d.id = d'.id
  context : d.context = d'.context
  root : d.root.Rearranged d'.root

variable {d d' : Definition} {ids : List String} {n : Node}

namespace Rearranged

theorem symm (h : d.Rearranged d') : d'.Rearranged d := ⟨h.id.symm, h.context.symm, h.root.symm⟩

/-- The same chains of ids lead to nodes, and these are rearranged at most. -/
theorem exists_reaches (h : d.Rearranged d') (hn : d.Reaches ids n) :
    ∃ n', d'.Reaches ids n' ∧ n.Rearranged n' := by
  obtain ⟨rest, rfl, hrest⟩ := hn
  obtain ⟨n', hn', hnn'⟩ := h.root.exists_reaches hrest
  exact ⟨n', ⟨rest, by rw [h.id], hn'⟩, hnn'⟩

theorem shaped (h : d.Rearranged d') (hd : d.Shaped) : d'.Shaped :=
  ⟨h.id ▸ hd.id, h.root.shaped hd.root⟩

/-- A target names the same chain of ids. -/
theorem targetOf_eq (h : d.Rearranged d') (ids : List String) (target : String) :
    d.targetOf ids target = d'.targetOf ids target := by
  rw [targetOf, targetOf, h.id]

theorem accepted (h : d.Rearranged d') (hd : ∃ m, Machine.ofDefinition d = .ok m) :
    ∃ m', Machine.ofDefinition d' = .ok m' := by
  rw [Machine.ofDefinition_ok_iff] at hd ⊢
  obtain ⟨hshaped, htargets⟩ := hd
  refine ⟨h.shaped hshaped, ?_⟩
  intro ids n' hn' event target htarget
  obtain ⟨n, hn, hnn'⟩ := h.symm.exists_reaches hn'
  rw [hnn'.on_eq] at htarget
  obtain ⟨u, hu⟩ := htargets ids n hn event target htarget
  obtain ⟨u', hu', -⟩ := h.exists_reaches hu
  exact ⟨u', h.targetOf_eq ids target ▸ hu'⟩

end Rearranged

end Definition

end Statechart
