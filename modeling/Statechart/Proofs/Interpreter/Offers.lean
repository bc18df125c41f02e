import Statechart.Proofs.Interpreter.Checkpoint
import Statechart.Proofs.Text.ByteOrder
/-!
What is offered and what is handled. The events on offer are collected from the tables of all active
states, while an event is handled by searching the same states from the leaf upwards; the two walks
agree. Main statement: exactly the events on offer are handled, each by the deepest active state
whose table has it, and they are listed once each in the order of their bytes.
-/

namespace Statechart

namespace Table

/-- The names of a table are those that were put in, and those that were there. -/
theorem mem_keys_foldl_insert {k : String} (ks : List String) (t : Table Unit) :
    k ∈ (ks.foldl (fun t k => t.insert k ()) t).keys ↔ k ∈ t.keys ∨ k ∈ ks := by
  induction ks generalizing t with
  | nil => simp
  | cons first rest ih =>
    have hinsert : k ∈ (t.insert first ()).keys ↔ k = first ∨ k ∈ t.keys := mem_map_fst_put
    rw [List.foldl_cons, ih, hinsert, List.mem_cons]
    tauto

end Table

namespace Machine

variable {m : Machine} {a : ActivePath} {event : String} {q : Nat}

/-! ## What is handled -/

/-- Some active state has a transition for an event. -/
def Handles (m : Machine) (a : ActivePath) (event : String) : Prop :=
  ∃ q ∈ a.nodes, (m.transitionAt event q).isSome = true

theorem isHandled_transition_iff :
    (m.transition a event).isHandled = true ↔ m.Handles a event := by
  have hfound : (m.handler? event a.nodes).isSome = true ↔ m.Handles a event := by
    simp only [handler?, List.findSome?_isSome_iff, List.mem_reverse, Option.isSome_map, Handles]
  rw [← hfound, transition_eq_handler?]
  cases m.handler? event a.nodes <;> rfl

theorem active_transition_of_not_handles (h : ¬ m.Handles a event) :
    (m.transition a event).active = a := by
  rw [← isHandled_transition_iff, transition_eq_handler?] at h
  rw [transition_eq_handler?]
  cases hfound : m.handler? event a.nodes with
  | none => rfl
  | some found =>
    rw [hfound] at h
    exact absurd rfl h

/-- The deepest active state whose table has an event, and the transition that it has for it. -/
def Innermost (m : Machine) (a : ActivePath) (event : String) (q : Nat) (t : Transition) : Prop :=
  m.transitionAt event q = some t ∧
    ∃ above below, a.nodes = above ++ q :: below ∧ ∀ j ∈ below, m.transitionAt event j = none

/-- The search from the leaf upwards stops at the deepest state whose table has the event. -/
theorem innermost_of_handler? {target : Nat} (h : m.handler? event a.nodes = some (q, target)) :
    ∃ t, m.Innermost a event q t ∧ t.node = target := by
  rw [handler?] at h
  obtain ⟨below, q', above, hnodes, hq, hbelow⟩ := List.findSome?_eq_some_iff.mp h
  obtain ⟨t, ht, hpair⟩ := Option.map_eq_some_iff.mp hq
  cases hpair
  refine ⟨t, ⟨ht, above.reverse, below.reverse, ?_, ?_⟩, rfl⟩
  · -- the search runs through the line from its other end
    have hreverse := congrArg List.reverse hnodes
    simpa using hreverse
  · intro j hj
    exact Option.map_eq_none_iff.mp (hbelow j (List.mem_reverse.mp hj))

theorem exists_innermost_of_handles (h : m.Handles a event) :
    ∃ q t, m.Innermost a event q t ∧ m.transition a event = ⟨some q, m.enter t.node⟩ := by
  rw [← isHandled_transition_iff, transition_eq_handler?] at h
  cases hfound : m.handler? event a.nodes with
  | none =>
    rw [hfound] at h
    cases h
  | some found =>
    obtain ⟨t, hinnermost, htarget⟩ := innermost_of_handler? hfound
    refine ⟨found.1, t, hinnermost, ?_⟩
    rw [transition_eq_handler?, hfound, htarget]
    rfl

/-! ## What is offered -/

theorem mem_eventsFor_iff : event ∈ m.eventsFor a ↔ m.Handles a event := by
  have htable (i : Nat) : event ∈ ((m.state? i).map fun s => s.transitions.keys).getD [] ↔
      (m.transitionAt event i).isSome = true := by
    rw [transitionAt]
    cases m.state? i with
    | none => simp
    | some s => exact s.transitions.mem_keys_iff
  rw [eventsFor_eq_keys, Table.mem_keys_foldl_insert, List.mem_flatMap]
  simp only [htable]
  exact or_iff_right List.not_mem_nil

theorem pairwise_bytes_eventsFor (m : Machine) (a : ActivePath) :
    (m.eventsFor a).Pairwise fun e e' => Text.bytes e < Text.bytes e' :=
  Table.pairwise_bytes_keys _

end Machine

namespace Interpreter

/-- An event is handled if and only if it is on offer. The deepest active state whose table has it
handles it, and its transition decides which state is entered; an event that is not on offer leaves
the active path as it is. The events on offer increase in the order of their bytes. So a running
interpreter whose observers never fail records an event as handled if and only if it was on offer
before. -/
theorem handles_offered (m : Machine) (a : ActivePath) (event : String) :
    ((m.transition a event).isHandled = true ↔ event ∈ m.eventsFor a) ∧
      ((m.transition a event).isHandled = true →
        ∃ q t, m.Innermost a event q t ∧ m.transition a event = ⟨some q, m.enter t.node⟩) ∧
      ((m.transition a event).isHandled = false → (m.transition a event).active = a) ∧
      ((m.eventsFor a).Pairwise fun e e' => Text.bytes e < Text.bytes e') ∧
      ∀ {C : Type} (i : Interpreter C) (e : Event), i.status = .running → i.Content →
        ∃ record, (i.send e).result = .ok record ∧
          (record.handled = true ↔ e.type ∈ i.availableEvents) := by
  refine ⟨?_, ?_, ?_, m.pairwise_bytes_eventsFor a, ?_⟩
  · rw [Machine.isHandled_transition_iff, Machine.mem_eventsFor_iff]
  · intro hhandled
    exact Machine.exists_innermost_of_handles (Machine.isHandled_transition_iff.mp hhandled)
  · intro hignored
    refine Machine.active_transition_of_not_handles fun hhandles => ?_
    rw [Machine.isHandled_transition_iff.mpr hhandles] at hignored
    cases hignored
  · intro C i e hrunning hcontent
    have hquiet : ∀ text, (i.send e).result ≠ .error (.observer text) :=
      quiet_of_content hcontent [e] _ List.mem_cons_self
    refine ⟨i.machine.step i.active e, ?_, ?_⟩
    · rw [result_send_of_quiet hquiet, if_pos hrunning]
    · rw [availableEvents, Machine.mem_eventsFor_iff]
      exact Machine.isHandled_transition_iff

/-- A pending order handles a payment and ignores a shipment, also under the eyes of an observer. -/
theorem handles_offered_order :
    let a := Machine.order.enter Machine.root
    let i := (((new Machine.order ()).register .silent).1.start none).interpreter
    (∃ q t, Machine.order.Innermost a "PAY" q t ∧
        Machine.order.transition a "PAY" = ⟨some q, Machine.order.enter t.node⟩) ∧
      (Machine.order.transition a "SHIP").active = a ∧
      ∃ record, (i.send { type := "PAY" }).result = .ok record ∧
        (record.handled = true ↔ "PAY" ∈ i.availableEvents) := by
  intro a i
  obtain ⟨-, hpay, -, -, hsend⟩ := handles_offered Machine.order a "PAY"
  obtain ⟨-, -, hship, -, -⟩ := handles_offered Machine.order a "SHIP"
  have hcontent : i.Content := by
    intro e he
    rw [List.mem_singleton.mp (show e ∈ [(0, Observer.silent)] from he)]
    exact fun _ _ => rfl
  exact ⟨hpay rfl, hship rfl, hsend i { type := "PAY" } rfl hcontent⟩

end Interpreter

end Statechart
