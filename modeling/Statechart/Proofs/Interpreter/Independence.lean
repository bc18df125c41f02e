import Statechart.Proofs.Interpreter.Call
import Statechart.Proofs.Interpreter.Refinement
import Mathlib.Data.List.Forall2
/-!
What the state of an interpreter depends on. Of a call only its move matters: the state that a start
enters, the type of an event, a stop. Contexts, payloads and observers play no part, whether
observers come, go or fail. Main statement: two runs with the same moves stand at the same place
after each of them, and events that both runs get through have the same record.
-/

namespace Statechart

/-- What matters of a call for the state. -/
inductive Move
  | enter (node : Nat)
  | handle (event : String)
  | stop
deriving DecidableEq, Repr

/-- The move of a call; a start that names no state moves nothing. -/
def Operation.move? {C : Type} (m : Machine) : Operation C → Option Move
  | .start _ => some (.enter Machine.root)
  | .startAt path _ => (m.lookup path).map .enter
  | .send event => some (.handle event.type)
  | .stop => some .stop
  | .withDefaultContext _ | .register _ | .unregister _ => none

/-- The moves of some calls, in order. -/
def moves {C : Type} (m : Machine) (ops : List (Operation C)) : List Move :=
  ops.filterMap (Operation.move? m)

/-- Where an interpreter stands: its status and its active path. -/
structure Standing where
  status : Status
  active : ActivePath
deriving DecidableEq, Repr

/-- Two records say the same, apart from the events they are about. -/
def Step.Agrees (s t : Step) : Prop :=
  s.source = t.source ∧ s.destination = t.destination ∧ s.handledBy = t.handledBy ∧
    s.handled = t.handled

/-! ## Moves -/

namespace Standing

variable {m : Machine}

/-- Where a move leads. -/
def after (m : Machine) (s : Standing) : Move → Standing
  | .enter node => if s.status = .idle then ⟨.running, m.enter node⟩ else s
  | .handle event =>
    if s.status = .running then ⟨.running, (m.transition s.active event).active⟩ else s
  | .stop => if s.status = .running then ⟨.stopped, s.active⟩ else s

/-- Where some moves lead, one after the other. -/
def run (m : Machine) : Standing → List Move → List Standing
  | _, [] => []
  | s, move :: rest => s.after m move :: run m (s.after m move) rest

/-- The active paths on which events arrive, with the types of these events. -/
def arrivals (m : Machine) : Standing → List Move → List (ActivePath × String)
  | _, [] => []
  | s, .handle event :: rest => (s.active, event) :: arrivals m (s.after m (.handle event)) rest
  | s, move :: rest => arrivals m (s.after m move) rest

end Standing

/-- The active paths of a machine that enters a state and then takes some events. -/
def Machine.evolution (m : Machine) (node : Nat) (events : List String) : List ActivePath :=
  events.scanl (fun a event => (m.transition a event).active) (m.enter node)

/-- Events lead a running interpreter along the transitions of the machine. -/
theorem Standing.run_handle (m : Machine) (a : ActivePath) (events : List String) :
    (⟨.running, a⟩ : Standing) :: Standing.run m ⟨.running, a⟩ (events.map .handle) =
      (events.scanl (fun a event => (m.transition a event).active) a).map (⟨.running, ·⟩) := by
  induction events generalizing a with
  | nil => rfl
  | cons event rest ih =>
    rw [List.map_cons, List.scanl_cons, List.map_cons, ← ih]
    rfl

namespace Interpreter

variable {C : Type} {i j : Interpreter C} {op : Operation C}

/-- Where the interpreter stands. -/
def standing (i : Interpreter C) : Standing := ⟨i.status, i.active⟩

/-- Where the interpreter stands after each move of a run. -/
def standings (i : Interpreter C) (ops : List (Operation C)) : List Standing :=
  (i.history ops).filterMap fun s =>
    (s.2.move? s.1.machine).map fun _ => (s.1.perform s.2).standing

/-- The results of the events of a run. -/
def results (i : Interpreter C) (ops : List (Operation C)) :
    List (Except InterpreterError Step) :=
  (i.history ops).filterMap fun s =>
    match s.2 with
    | .send event => some (s.1.send event).result
    | _ => none

/-! ## One call -/

/-- A refused call would have moved nothing. -/
theorem standing_of_fault? {e : InterpreterError} (h : i.fault? op = some e) :
    i.standing = (op.move? i.machine).elim i.standing (i.standing.after i.machine) := by
  have hfault : i.fault? op ≠ none := by
    rw [h]
    exact nofun
  cases op with
  | start context =>
    have hne : ¬ i.status = .idle := mt startFault?_eq_none_iff.mpr hfault
    exact (if_neg hne).symm
  | startAt path context =>
    rw [Operation.move?]
    cases hlookup : i.machine.lookup path with
    | none => rfl
    | some q =>
      have hne : ¬ i.status = .idle := by
        intro hidle
        refine hfault (fault?_startAt_eq_none_iff.mpr ⟨hidle, ?_⟩)
        rw [hlookup, Option.isSome_some]
      exact (if_neg hne).symm
  | send event =>
    have hne : ¬ i.status = .running := mt isRunning_iff.mpr (runFault?_eq_some_iff.mp h).1
    exact (if_neg hne).symm
  | stop =>
    have hne : ¬ i.status = .running := mt isRunning_iff.mpr (runFault?_eq_some_iff.mp h).1
    exact (if_neg hne).symm
  | _ => rfl

theorem standing_of_admits (h : i.admits op = true) :
    (i.committed op).standing =
      (op.move? i.machine).elim i.standing (i.standing.after i.machine) := by
  cases op with
  | start context => exact (if_pos (beq_iff_eq.mp h)).symm
  | startAt path context =>
    obtain ⟨hidle, q, hq, hcommitted⟩ := exists_entered_of_admits h
    rw [Operation.move?, hcommitted, hq]
    exact (if_pos hidle).symm
  | send event =>
    have hrunning : i.status = .running := isRunning_iff.mp h
    show (⟨i.status, _⟩ : Standing) = if i.status = .running then _ else _
    rw [if_pos hrunning, hrunning]
    rfl
  | _ => cases h

/-- What a call does to the place where an interpreter stands is what its move does. -/
theorem Effect.standing (h : i.Effect op j) :
    j.standing = (op.move? i.machine).elim i.standing (i.standing.after i.machine) := by
  cases h with
  | refused h => exact standing_of_fault? h
  | admitted h => exact standing_of_admits h
  | withDefaultContext context => rfl
  | register observer => rfl
  | unregister id => rfl
  | stop h => exact (if_pos (isRunning_iff.mp h)).symm

/-- The record of an event that got through is that of the machine on the active path. -/
theorem eq_step_of_send {event : Event} {s : Step} (h : (i.send event).result = .ok s) :
    s = i.machine.step i.active event := by
  by_cases hrunning : i.isRunning = true
  · rw [send_of_isRunning hrunning, announce] at h
    dsimp only at h
    split at h
    · cases h
    · cases h
      rfl
  · rw [send, if_neg hrunning] at h
    cases h

/-! ## Runs -/

theorem standings_eq_run (i : Interpreter C) (ops : List (Operation C)) :
    i.standings ops = i.standing.run i.machine (moves i.machine ops) := by
  induction ops generalizing i with
  | nil => rfl
  | cons op rest ih =>
    have hstep := (i.effect_perform op).standing
    have hrest := ih (i.perform op)
    rw [i.machine_perform op] at hrest
    unfold standings moves at hrest ⊢
    rw [history, List.filterMap_cons, List.filterMap_cons, hrest]
    cases hmove : op.move? i.machine with
    | none =>
      rw [hmove] at hstep
      rw [hstep]
      rfl
    | some move =>
      rw [hmove] at hstep
      rw [hstep]
      rfl

/-- A result of an event is in order for the active path on which the event arrived: an event that
got through has the record of the machine. -/
def InOrder (m : Machine) (r : Except InterpreterError Step) (arrival : ActivePath × String) :
    Prop :=
  ∀ s, r = .ok s → ∃ event : Event, event.type = arrival.2 ∧ s = m.step arrival.1 event

/-- A call that sends nothing adds no arrival. -/
theorem arrivals_of_ne_send (i : Interpreter C) (hop : ∀ event, op ≠ .send event)
    (rest : List (Operation C)) :
    i.standing.arrivals i.machine (moves i.machine (op :: rest)) =
      (i.perform op).standing.arrivals i.machine (moves i.machine rest) := by
  rw [(i.effect_perform op).standing, moves, List.filterMap_cons]
  cases op with
  | startAt path context =>
    rw [Operation.move?]
    cases i.machine.lookup path <;> rfl
  | send event => exact absurd rfl (hop event)
  | _ => rfl

theorem forall₂_results_arrivals (i : Interpreter C) (ops : List (Operation C)) :
    List.Forall₂ (InOrder i.machine) (i.results ops)
      (i.standing.arrivals i.machine (moves i.machine ops)) := by
  induction ops generalizing i with
  | nil => exact .nil
  | cons op rest ih =>
    have hrest := ih (i.perform op)
    rw [i.machine_perform op] at hrest
    by_cases hsend : ∃ event, op = .send event
    · obtain ⟨event, rfl⟩ := hsend
      have hstep := (i.effect_perform (.send event)).standing
      rw [hstep] at hrest
      exact .cons (fun s hs => ⟨event, rfl, eq_step_of_send hs⟩) hrest
    · have hop : ∀ event, op ≠ .send event := fun event heq => hsend ⟨event, heq⟩
      rw [arrivals_of_ne_send i hop]
      cases op with
      | send event => exact absurd rfl (hop event)
      | _ => exact hrest

/-! ## Two runs -/

/-- Two results have the same record, if both have one. -/
def SameRecord (r₁ r₂ : Except InterpreterError Step) : Prop :=
  ∀ s₁ s₂, r₁ = .ok s₁ → r₂ = .ok s₂ → s₁.Agrees s₂

theorem InOrder.sameRecord {m : Machine} {r₁ r₂ : Except InterpreterError Step}
    {arrival : ActivePath × String} (h₁ : InOrder m r₁ arrival) (h₂ : InOrder m r₂ arrival) :
    SameRecord r₁ r₂ := by
  intro s₁ s₂ hs₁ hs₂
  obtain ⟨event₁, htype₁, rfl⟩ := h₁ s₁ hs₁
  obtain ⟨event₂, htype₂, rfl⟩ := h₂ s₂ hs₂
  have htype : event₁.type = event₂.type := htype₁.trans htype₂.symm
  simp only [Step.Agrees, Machine.step, htype, and_self]

theorem forall₂_sameRecord {m : Machine} {arrivals : List (ActivePath × String)}
    {rs₁ rs₂ : List (Except InterpreterError Step)} (h₁ : List.Forall₂ (InOrder m) rs₁ arrivals)
    (h₂ : List.Forall₂ (InOrder m) rs₂ arrivals) : List.Forall₂ SameRecord rs₁ rs₂ := by
  induction h₁ generalizing rs₂ with
  | nil =>
    cases h₂
    exact .nil
  | cons hr _ ih =>
    cases h₂ with
    | cons hr' hrest => exact .cons (hr.sameRecord hr') (ih hrest)

/-- Two new interpreters over one machine that make the same moves, with any contexts, payloads and
observers, and with anything registered and removed in between, stand at the same place after each
move, and their results agree event by event. If the moves are a start and some events, they stand
where the transitions of the machine lead from the state that the start enters. -/
theorem standings_congr (m : Machine) {C₁ C₂ : Type} (context₁ : C₁) (context₂ : C₂)
    (ops₁ : List (Operation C₁)) (ops₂ : List (Operation C₂)) (h : moves m ops₁ = moves m ops₂) :
    let i₁ := new m context₁
    let i₂ := new m context₂
    i₁.standings ops₁ = i₂.standings ops₂ ∧
      (∀ node events, moves m ops₁ = .enter node :: events.map .handle →
        i₁.standings ops₁ = (m.evolution node events).map (⟨.running, ·⟩)) ∧
      List.Forall₂ SameRecord (i₁.results ops₁) (i₂.results ops₂) := by
  intro i₁ i₂
  have hrun₁ : i₁.standings ops₁ = i₁.standing.run m (moves m ops₁) := standings_eq_run i₁ ops₁
  have hrun₂ : i₂.standings ops₂ = i₂.standing.run m (moves m ops₂) := standings_eq_run i₂ ops₂
  have hresults₁ : List.Forall₂ (InOrder m) (i₁.results ops₁)
      (i₁.standing.arrivals m (moves m ops₁)) := forall₂_results_arrivals i₁ ops₁
  have hresults₂ : List.Forall₂ (InOrder m) (i₂.results ops₂)
      (i₂.standing.arrivals m (moves m ops₂)) := forall₂_results_arrivals i₂ ops₂
  -- both are new, so they stand at the same place
  have hnew : i₁.standing = i₂.standing := rfl
  refine ⟨?_, ?_, ?_⟩
  · rw [hrun₁, hrun₂, h, hnew]
  · intro node events hmoves
    rw [hrun₁, hmoves]
    exact Standing.run_handle m (m.enter node) events
  · rw [h, hnew] at hresults₁
    exact forall₂_sameRecord hresults₁ hresults₂

/-- A silent run and one whose observer fails on every notice. -/
theorem standings_congr_order :
    let ops₁ : List (Operation Unit) := [.start none, .send { type := "PAY" }]
    let ops₂ : List (Operation Nat) :=
      [.register fun _ _ => some "down", .startAt "order" (some 3), .unregister 7,
        .send { type := "PAY", payload := some .null }]
    moves Machine.order ops₁ = moves Machine.order ops₂ ∧
      (new Machine.order ()).standings ops₁ = (new Machine.order 0).standings ops₂ ∧
      (new Machine.order ()).standings ops₁ =
        (Machine.order.evolution Machine.root ["PAY"]).map (⟨.running, ·⟩) := by
  intro ops₁ ops₂
  have hmoves : moves Machine.order ops₁ = moves Machine.order ops₂ := by rfl
  obtain ⟨hsame, hevolution, -⟩ := standings_congr Machine.order () 0 ops₁ ops₂ hmoves
  exact ⟨hmoves, hsame, hevolution Machine.root ["PAY"] rfl⟩

end Interpreter

end Statechart
