import Statechart.Proofs.Machine.Handling
/-!
The interpreter and the semantics by names. An interpreter without observers tracks a list of ids if
it is running and rests at the state with these ids; sending an event gives the record of the
semantics, and the interpreter then tracks the ids that the record leads to. Main statement: started
anywhere and sent any events, it gives the records of the semantics one by one.
-/

namespace Statechart

namespace Machine

/-- The record of an event on an active path. -/
def step (m : Machine) (a : ActivePath) (event : Event) : Step where
  source := m.pathOf a
  destination := m.pathOf (m.transition a event.type).active
  event := event
  handledBy := ((m.transition a event.type).source.bind m.state?).map State.path
  handled := (m.transition a event.type).isHandled

/-- At rest the record of an event is that of the semantics, and it leads to the state after the
event. -/
theorem Realizes.step_of_restsAt {m : Machine} {d : Definition} {a : ActivePath} {ids : List String}
    (h : m.Realizes d) (ha : m.RestsAt d a ids) (event : Event) :
    m.step a event = d.step ids event ∧
      m.RestsAt d (m.transition a event.type).active (d.step ids event).destination.segments := by
  rw [Machine.step, Definition.step, h.pathOf_of_restsAt ha]
  cases hnamed : d.handler? event.type ids with
  | none =>
    rw [h.transition_of_handler?_eq_none ha hnamed, h.pathOf_of_restsAt ha]
    exact ⟨rfl, ha⟩
  | some named =>
    obtain ⟨front, target⟩ := named
    obtain ⟨q, ⟨s, hs, rfl⟩, hsource, hrests⟩ := h.transition_of_handler?_eq_some ha hnamed
    obtain ⟨t, ht, hfills⟩ := h.state_of_placed hs
    -- the position of the handler has the path of the prefix
    rw [h.pathOf_of_restsAt hrests, Resolution.isHandled, hsource, Option.bind_some, ht,
      Option.map_some, hfills.path]
    exact ⟨rfl, hrests⟩

end Machine

namespace Interpreter

variable {C : Type} {m : Machine} {d : Definition} {ids : List String}

/-- The results of sending some events one after the other. -/
def replies (i : Interpreter C) : List Event → List (Except InterpreterError Step)
  | [] => []
  | event :: rest => (i.send event).result :: replies (i.send event).interpreter rest

/-- A running interpreter over a machine, without observers, in the state with the given ids. -/
structure Tracks (i : Interpreter C) (m : Machine) (d : Definition) (ids : List String) : Prop where
  machine : i.machine = m
  status : i.status = .running
  observers : i.observers = []
  active : m.RestsAt d i.active ids

/-! ## One call -/

/-- Without observers an announcement changes nothing and succeeds. -/
theorem announce_of_observers_nil {α : Type} {i : Interpreter C} (h : i.observers = [])
    (event : Option Event) (a : α) : i.announce event a = ⟨i, [], .ok a⟩ := by
  cases i
  cases h
  rfl

theorem send_of_isRunning {i : Interpreter C} (h : i.isRunning = true) (event : Event) :
    i.send event =
      { i with active := (i.machine.transition i.active event.type).active }.announce (some event)
        (i.machine.step i.active event) :=
  if_pos h

theorem send_of_tracks (hm : m.Realizes d) {i : Interpreter C} (h : i.Tracks m d ids)
    (event : Event) :
    (i.send event).result = .ok (d.step ids event) ∧
      (i.send event).interpreter.Tracks m d (d.step ids event).destination.segments := by
  obtain ⟨rfl, hstatus, hobservers, hactive⟩ := h
  obtain ⟨hrecord, hrests⟩ := hm.step_of_restsAt hactive event
  have hrunning : i.isRunning = true := by
    rw [isRunning, hstatus]
    rfl
  have hsend : i.send event =
      ⟨{ i with active := (i.machine.transition i.active event.type).active }, [],
        .ok (d.step ids event)⟩ := by
    rw [send_of_isRunning hrunning, hrecord, announce_of_observers_nil]
    exact hobservers
  rw [hsend]
  exact ⟨rfl, rfl, hstatus, hobservers, hrests⟩

/-! ## Whole runs -/

theorem replies_of_tracks (hm : m.Realizes d) {i : Interpreter C} (h : i.Tracks m d ids)
    (events : List Event) : i.replies events = (d.run ids events).map .ok := by
  induction events generalizing i ids with
  | nil => rfl
  | cons event rest ih =>
    obtain ⟨hresult, htracks⟩ := send_of_tracks hm h event
    rw [replies, Definition.run, List.map_cons, hresult, ih htracks]

/-- A new interpreter that enters a state tracks the ids that are active then. -/
theorem tracks_entered (hm : m.Realizes d) (context : C) (given : Option C) {q : Nat} {s : Slot}
    (hs : d.Placed q s) :
    ((new m context).entered q given).Tracks m d (d.entered s.path.segments) :=
  ⟨rfl, rfl, rfl, hm.restsAt_enter hs⟩

theorem startAt_new_of_lookup {path : String} {q : Nat} (hq : m.lookup path = some q) (context : C)
    (given : Option C) :
    (new m context).startAt path given = ((new m context).entered q given).announce none () := by
  simp only [startAt, startFault?, new, hq]

theorem startAt_new_of_lookup_eq_none {path : String} (hnone : m.lookup path = none) (context : C)
    (given : Option C) :
    (new m context).startAt path given = (new m context).refuse (.unknownState path) := by
  simp only [startAt, startFault?, new, hnone]

/-- A new interpreter, started at the root or at a node that a text names, gives the records of the
semantics by names, from the ids of that node on. A text that names no node is refused. -/
theorem refines_run (h : Machine.ofDefinition d = .ok m) (context : C) (given : Option C)
    (events : List Event) :
    let i := new m context
    ((i.start given).result = .ok () ∧
        (i.start given).interpreter.replies events =
          (d.run (d.entered [d.id]) events).map .ok) ∧
      (∀ path ids, d.named? path = some ids →
        (i.startAt path given).result = .ok () ∧
          (i.startAt path given).interpreter.replies events =
            (d.run (d.entered ids) events).map .ok) ∧
      ∀ path, d.named? path = none →
        (i.startAt path given).result = .error (.unknownState path) := by
  have hm := Machine.realizes_of_ofDefinition h
  refine ⟨?_, ?_, ?_⟩
  · have htracks := tracks_entered hm context given .root
    exact ⟨rfl, replies_of_tracks hm htracks events⟩
  · intro path ids hnamed
    have hrel := hm.lookup_rel path
    rw [hnamed] at hrel
    obtain ⟨q, hlookup, s, hs, rfl⟩ := rel_some_right_iff.mp hrel
    rw [startAt_new_of_lookup hlookup]
    exact ⟨rfl, replies_of_tracks hm (tracks_entered hm context given hs) events⟩
  · intro path hnamed
    have hrel := hm.lookup_rel path
    rw [hnamed] at hrel
    rw [startAt_new_of_lookup_eq_none (rel_none_right_iff.mp hrel)]
    rfl

theorem refines_run_order :
    Machine.ofDefinition .order = .ok .order ∧
      ((new Machine.order ()).start none).interpreter.replies
          [{ type := "PAY" }, { type := "STOP" }, { type := "REFUND" }] =
        (Definition.order.run (Definition.order.entered ["order"])
          [{ type := "PAY" }, { type := "STOP" }, { type := "REFUND" }]).map .ok :=
  ⟨Machine.ofDefinition_order, (refines_run Machine.ofDefinition_order () none _).1.2⟩

example :
    (Definition.order.run ["order", "active", "shipped"]
        [{ type := "STOP" }, { type := "CANCEL" }]).map
      (fun s => (s.destination.display, s.handledBy)) =
    [("order.active.shipped", none), ("order.closed.delivered", some ⟨["order", "active"]⟩)] := by
  rfl

end Interpreter

end Statechart
