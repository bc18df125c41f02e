import Statechart.Proofs.Interpreter.Call
import Statechart.Proofs.Interpreter.Refinement
import Statechart.Proofs.Machine.Rearrangement
/-!
Interpreters over machines that differ in the positions of their states. Every call does the same to
both, so that nobody who makes calls and looks at paths, records, notices and offers can tell them
apart. Main statement: the order in which sibling states are declared has no meaning, neither for
whether a definition is accepted nor for anything that can be seen of its machine, apart from
positions.
-/

namespace Statechart

/-- What can be seen of a call: its error, the record of an event that got through, the calls of
observers, and afterwards the status, the path with the context, the state value and the events on
offer. -/
structure View (C : Type) where
  error : Option InterpreterError
  record : Option Step
  calls : List (Nat × Notice C)
  status : Status
  snapshot : Snapshot C
  value : Json.Value
  offered : List String

namespace Interpreter

variable {C : Type}

/-- The record of a call, if it is an event that got through. -/
def record? (i : Interpreter C) : Operation C → Option Step
  | .send event => (i.send event).result.toOption
  | _ => none

/-- What can be seen of a call. -/
def view (i : Interpreter C) (op : Operation C) : View C where
  error := i.error? op
  record := i.record? op
  calls := i.calls op
  status := (i.perform op).status
  snapshot := (i.perform op).snapshot
  value := (i.perform op).snapshot.value
  offered := (i.perform op).availableEvents

/-- What can be seen of the calls of a run. -/
def views (i : Interpreter C) (ops : List (Operation C)) : List (View C) :=
  (i.history ops).map fun s => s.1.view s.2

/-- The interpreter over another machine, at the corresponding state. -/
def renumber (f : Nat → Nat) (m' : Machine) (i : Interpreter C) : Interpreter C :=
  { i with machine := m', active := i.active.renumber f }

end Interpreter

/-- The record of an event is the same. -/
theorem Machine.Renumbered.step_eq {f : Nat → Nat} {m m' : Machine} (h : m.Renumbered f m')
    (a : ActivePath) (event : Event) : m'.step (a.renumber f) event = m.step a event := by
  have hhandler : ∀ source : Option Nat, ((source.map f).bind m'.state?).map State.path =
      (source.bind m.state?).map State.path := by
    intro source
    cases source with
    | none => rfl
    | some q => exact h.map_state? (fun _ _ hst => hst.path) q
  rw [Machine.step, Machine.step, h.transition_eq, Resolution.renumber, h.pathOf_eq, h.pathOf_eq,
    hhandler, Resolution.isHandled, Resolution.isHandled, Option.isSome_map]

/-- The reply of an interpreter over another machine. -/
def Reply.renumber {C α : Type} (f : Nat → Nat) (m' : Machine) (r : Reply C α) : Reply C α :=
  { r with interpreter := r.interpreter.renumber f m' }

namespace Interpreter

variable {C : Type} {f : Nat → Nat} {m' : Machine} {i : Interpreter C}

theorem renumber_new {m : Machine} (h : m.Renumbered f m') (context : C) :
    (new m context).renumber f m' = new m' context := by
  rw [renumber, new, new, h.initialPath_eq]

theorem snapshot_renumber (h : i.machine.Renumbered f m') :
    (i.renumber f m').snapshot = i.snapshot := by
  rw [snapshot, snapshot]
  exact congrArg (Snapshot.mk · i.context) (h.pathOf_eq i.active)

theorem availableEvents_renumber (h : i.machine.Renumbered f m') :
    (i.renumber f m').availableEvents = i.availableEvents :=
  h.eventsFor_eq i.active

/-! ## Calls -/

theorem announce_renumber {α : Type} (h : i.machine.Renumbered f m') (event : Option Event) (a : α) :
    (i.renumber f m').announce event a = (i.announce event a).renumber f m' := by
  rw [announce, announce, snapshot_renumber h]
  rfl

theorem entered_renumber (h : i.machine.Renumbered f m') (q : Nat) (context : Option C) :
    (i.renumber f m').entered (f q) context = (i.entered q context).renumber f m' := by
  rw [entered, entered, renumber, renumber, h.enter_eq]

theorem start_renumber (h : i.machine.Renumbered f m') (context : Option C) :
    (i.renumber f m').start context = (i.start context).renumber f m' := by
  have hentered := entered_renumber h Machine.root context
  rw [h.root] at hentered
  have hfault : (i.renumber f m').startFault? = i.startFault? := rfl
  rw [start, start, hfault]
  cases i.startFault? with
  | some e => rfl
  | none =>
    show ((i.renumber f m').entered Machine.root context).announce none () = _
    rw [hentered, announce_renumber (i := i.entered Machine.root context) h]

theorem startAt_renumber (h : i.machine.Renumbered f m') (path : String) (context : Option C) :
    (i.renumber f m').startAt path context = (i.startAt path context).renumber f m' := by
  have hfault : (i.renumber f m').startFault? = i.startFault? := rfl
  have hlookup : (i.renumber f m').machine.lookup path = (i.machine.lookup path).map f :=
    h.lookup_eq path
  rw [startAt, startAt, hfault, hlookup]
  cases i.startFault? with
  | some e => rfl
  | none =>
    cases i.machine.lookup path with
    | none => rfl
    | some q =>
      show ((i.renumber f m').entered (f q) context).announce none () = _
      rw [entered_renumber h, announce_renumber (i := i.entered q context) h]

theorem send_renumber (h : i.machine.Renumbered f m') (event : Event) :
    (i.renumber f m').send event = (i.send event).renumber f m' := by
  by_cases hrunning : i.isRunning = true
  · have hrunning' : (i.renumber f m').isRunning = true := hrunning
    have hstep : (i.renumber f m').machine.step (i.renumber f m').active event =
        i.machine.step i.active event := h.step_eq i.active event
    have hactive : (i.renumber f m').machine.transition (i.renumber f m').active event.type =
        (i.machine.transition i.active event.type).renumber f := h.transition_eq i.active event.type
    rw [send_of_isRunning hrunning, send_of_isRunning hrunning', hstep, hactive]
    exact announce_renumber
      (i := { i with active := (i.machine.transition i.active event.type).active }) h (some event) _
  · have hrunning' : ¬ (i.renumber f m').isRunning = true := hrunning
    rw [send, send, if_neg hrunning, if_neg hrunning']
    rfl

theorem stop_renumber (i : Interpreter C) (f : Nat → Nat) (m' : Machine) :
    (i.renumber f m').stop = i.stop.renumber f m' := by
  have hrunning : (i.renumber f m').isRunning = i.isRunning := rfl
  rw [stop, stop, hrunning]
  cases i.isRunning <;> rfl

/-- A call leads to corresponding interpreters, tells the observers the same and fails alike. -/
theorem perform_renumber (h : i.machine.Renumbered f m') (op : Operation C) :
    (i.renumber f m').perform op = (i.perform op).renumber f m' ∧
      (i.renumber f m').calls op = i.calls op ∧ (i.renumber f m').error? op = i.error? op := by
  cases op with
  | start context =>
    rw [perform, perform, calls, calls, error?, error?, start_renumber h]
    exact ⟨rfl, rfl, rfl⟩
  | startAt path context =>
    rw [perform, perform, calls, calls, error?, error?, startAt_renumber h]
    exact ⟨rfl, rfl, rfl⟩
  | send event =>
    rw [perform, perform, calls, calls, error?, error?, send_renumber h]
    exact ⟨rfl, rfl, rfl⟩
  | stop =>
    rw [perform, perform, calls, calls, error?, error?, stop_renumber]
    exact ⟨rfl, rfl, rfl⟩
  | _ => exact ⟨rfl, rfl, rfl⟩

/-- What can be seen of a call is the same. -/
theorem view_renumber (h : i.machine.Renumbered f m') (op : Operation C) :
    (i.renumber f m').view op = i.view op := by
  obtain ⟨hperform, hcalls, herror⟩ := perform_renumber h op
  have hmachine : (i.perform op).machine.Renumbered f m' := by
    rw [i.machine_perform op]
    exact h
  have hrecord : (i.renumber f m').record? op = i.record? op := by
    cases op with
    | send event =>
      rw [record?, record?, send_renumber h]
      rfl
    | _ => rfl
  rw [view, view, hperform, hcalls, herror, hrecord, snapshot_renumber hmachine,
    availableEvents_renumber hmachine]
  rfl

/-- What can be seen of a run is the same. -/
theorem views_renumber (h : i.machine.Renumbered f m') (ops : List (Operation C)) :
    (i.renumber f m').views ops = i.views ops := by
  induction ops generalizing i with
  | nil => rfl
  | cons op rest ih =>
    have hmachine : (i.perform op).machine.Renumbered f m' := by
      rw [i.machine_perform op]
      exact h
    have hrest := ih hmachine
    rw [views, views] at hrest
    rw [views, views, history, history, List.map_cons, List.map_cons, view_renumber h,
      (perform_renumber h op).1, hrest]

end Interpreter

/-! ## The order of siblings -/

/-- Two definitions that differ only in the order of sibling states are both accepted or both
rejected. The states of their machines correspond one to one, texts are looked up at corresponding
states, the initial paths are shown alike, and nothing that can be seen of any calls on an interpreter
is different. -/
theorem sibling_order_immaterial {d d' : Definition} (h : d.Rearranged d') :
    ((∃ m, Machine.ofDefinition d = .ok m) ↔ ∃ m', Machine.ofDefinition d' = .ok m') ∧
      ∀ m m', Machine.ofDefinition d = .ok m → Machine.ofDefinition d' = .ok m' →
        ∃ f, m.Renumbered f m' ∧
          (m'.pathOf m'.initialPath).display = (m.pathOf m.initialPath).display ∧
          (∀ text, m'.lookup text = (m.lookup text).map f) ∧
          ∀ (C : Type) (context : C) (ops : List (Operation C)),
            (Interpreter.new m' context).views ops = (Interpreter.new m context).views ops := by
  refine ⟨⟨h.accepted, h.symm.accepted⟩, ?_⟩
  intro m m' hm hm'
  have hrenumbered := Machine.renumbered_of_rearranged h (Machine.realizes_of_ofDefinition hm)
    (Machine.realizes_of_ofDefinition hm')
  refine ⟨m.counterpart m', hrenumbered, ?_, hrenumbered.lookup_eq, ?_⟩
  · rw [hrenumbered.initialPath_eq, hrenumbered.pathOf_eq]
  · intro C context ops
    rw [← Interpreter.renumber_new hrenumbered]
    exact Interpreter.views_renumber (i := Interpreter.new m context) hrenumbered ops

/-- An order whose stages are declared in the opposite order. -/
def Definition.backwardOrder : Definition :=
  { Definition.order with
    root := .mk (some "pending") Definition.order.root.states.reverse Definition.order.root.on }

theorem sibling_order_immaterial_order :
    Definition.order.Rearranged .backwardOrder ∧
      ∃ m' f, Machine.ofDefinition .backwardOrder = .ok m' ∧ Machine.order.Renumbered f m' ∧
        (Interpreter.new m' ()).views [.startAt "active" none, .send { type := "CANCEL" }] =
          (Interpreter.new Machine.order ()).views
            [.startAt "active" none, .send { type := "CANCEL" }] := by
  have h : Definition.order.Rearranged .backwardOrder :=
    ⟨rfl, rfl, .perm (List.reverse_perm _).symm⟩
  obtain ⟨haccepted, hmachines⟩ := sibling_order_immaterial h
  obtain ⟨m', hm'⟩ := haccepted.mp ⟨Machine.order, Machine.ofDefinition_order⟩
  obtain ⟨f, hrenumbered, -, -, hviews⟩ := hmachines _ _ Machine.ofDefinition_order hm'
  exact ⟨h, m', f, hm', hrenumbered, hviews Unit () _⟩

end Statechart
