import Statechart.Proofs.Interpreter.Call
import Statechart.Proofs.Machine.Handling
/-!
The active path of an interpreter through its whole life. An interpreter over a built machine rests
at the line of an atomic state: a new one does, and every call keeps it so. Main statement: after
any calls the active path is such a line, and its ids are the path that is shown.
-/

namespace Statechart

namespace Machine

/-- A line of positions from the root down to an atomic state, which is entered as a whole with its
last position. -/
structure IsActive (m : Machine) (a : ActivePath) : Prop where
  ne_nil : a.nodes ≠ []
  root : a.nodes.head? = some root
  /-- Each state is the parent of the next one. -/
  parents : a.nodes.IsChain fun i j => (m.state? j).bind State.parent = some i
  atomic : ∃ l t, a.leaf = some l ∧ m.state? l = some t ∧ t.isAtomic = true
  enter : ∀ l, a.leaf = some l → m.enter l = a
  lt_size : ∀ i ∈ a.nodes, i < m.size

theorem Realizes.isActive_of_restsAt {m : Machine} {d : Definition} {a : ActivePath}
    {ids : List String} (h : m.Realizes d) (ha : m.RestsAt d a ids) : m.IsActive a := by
  obtain ⟨l, u, hu, hstates, -, rfl⟩ := ha
  obtain ⟨t, ht, hfills⟩ := h.state_of_placed hu
  have hleaf : ActivePath.leaf ⟨m.lineage l⟩ = some l := h.getLast?_lineage hu
  refine ⟨?_, h.head?_lineage hu, h.isChain_lineage hu, ⟨l, t, hleaf, ht, ?_⟩, ?_,
    h.lt_size_of_mem_lineage hu⟩
  · intro hnil
    have hhead := h.head?_lineage hu
    rw [show m.lineage l = [] from hnil] at hhead
    cases hhead
  · rw [State.isAtomic, hfills.kind_eq_atomic hu hstates]
  · intro l' hl'
    rw [hleaf, Option.some.injEq] at hl'
    subst hl'
    exact h.enter_of_states_nil hu hstates

/-- The ids along an active path are the path of its leaf. -/
theorem Realizes.map_id_of_restsAt {m : Machine} {d : Definition} {a : ActivePath}
    {ids : List String} (h : m.Realizes d) (ha : m.RestsAt d a ids) :
    a.nodes.map (fun i => (m.state? i).map State.id) = ids.map some := by
  obtain ⟨l, u, hu, -, rfl, rfl⟩ := ha
  exact h.map_id_lineage hu

end Machine

namespace Interpreter

variable {C : Type} {m : Machine} {d : Definition}

/-- An interpreter is over a given machine and rests at one of its atomic states. -/
structure Rests (i : Interpreter C) (m : Machine) (d : Definition) : Prop where
  machine : i.machine = m
  active : ∃ ids, m.RestsAt d i.active ids

/-- A new interpreter rests where the root is entered. -/
theorem rests_new (hm : m.Realizes d) (context : C) : (new m context).Rests m d :=
  ⟨rfl, _, hm.restsAt_enter .root⟩

/-- A call keeps the interpreter at rest. -/
theorem rests_perform (hm : m.Realizes d) {i : Interpreter C} (op : Operation C)
    (h : i.Rests m d) : (i.perform op).Rests m d := by
  refine ⟨(i.machine_perform op).trans h.machine, ?_⟩
  obtain ⟨ids, ha⟩ := h.active
  -- nothing has happened, or a state was entered: the root, one that was looked up, or a target
  rcases i.active_perform op with hsame | hstart | ⟨path, q, hlookup, hentered⟩ | ⟨event, hsent⟩
  · rw [hsame]
    exact ⟨ids, ha⟩
  · rw [hstart, h.machine]
    exact ⟨_, hm.restsAt_enter .root⟩
  · rw [h.machine] at hlookup hentered
    obtain ⟨s, hs⟩ := hm.exists_placed_of_lookup hlookup
    rw [hentered]
    exact ⟨_, hm.restsAt_enter hs⟩
  · rw [hsent, h.machine]
    cases hnamed : d.handler? event ids with
    | none =>
      rw [hm.transition_of_handler?_eq_none ha hnamed]
      exact ⟨ids, ha⟩
    | some named =>
      obtain ⟨q, -, -, hrests⟩ := hm.transition_of_handler?_eq_some ha hnamed
      exact ⟨_, hrests⟩

/-- Wherever a run has come, the interpreter is at rest. -/
theorem rests_performAll (hm : m.Realizes d) (context : C) (ops : List (Operation C)) :
    ((new m context).performAll ops).Rests m d :=
  performAll_induction (P := fun i => i.Rests m d) (fun _ op => rests_perform hm op)
    (rests_new hm context) ops

/-- Whatever is called on an interpreter over a built machine, its active path is a line from the
root down to an atomic state, and the path it shows consists of the ids along that line. -/
theorem isActive_performAll (h : Machine.ofDefinition d = .ok m) (context : C)
    (ops : List (Operation C)) :
    let i := (new m context).performAll ops
    i.machine = m ∧ m.IsActive i.active ∧
      i.snapshot.path.segments.map some =
        i.active.nodes.map fun q => (m.state? q).map State.id := by
  have hm := Machine.realizes_of_ofDefinition h
  have hrests : ((new m context).performAll ops).Rests m d :=
    performAll_induction (P := fun i => i.Rests m d) (fun _ op => rests_perform hm op)
      (rests_new hm context) ops
  obtain ⟨ids, ha⟩ := hrests.active
  refine ⟨hrests.machine, hm.isActive_of_restsAt ha, ?_⟩
  rw [hm.map_id_of_restsAt ha, snapshot, hrests.machine, hm.pathOf_of_restsAt ha]

theorem isActive_performAll_order :
    Machine.ofDefinition .order = .ok .order ∧
      Machine.order.IsActive ((new Machine.order ()).performAll
        [.register fun _ _ => some "down", .start none, .send { type := "PAY" }]).active :=
  ⟨Machine.ofDefinition_order, (isActive_performAll Machine.ofDefinition_order () _).2.1⟩

end Interpreter

end Statechart
