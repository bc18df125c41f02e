import Statechart.Proofs.Interpreter.Operation
/-!
What one call on an interpreter does. A call that comes at the wrong time, or that names no state, is
at fault and refused. A start or an event that is not at fault is admitted: the new state takes
effect first, then the observers are told about it in turn, up to and including the first one that
fails. Every other call tells nobody. Main statements: one equation for each of the three kinds, whom
a round of notices reaches, and the ways in which a call can leave an interpreter.
-/

namespace Statechart

variable {C : Type}

/-! ## Rounds of notices -/

/-- Whom a round reaches and how it fails: everyone if nobody fails, else those up to and including
the first one that does. -/
inductive Told (n : Notice C) :
    List (Registration C) → List (Registration C) → Option String → Prop
  | everyone {rs : List (Registration C)} (h : ∀ r ∈ rs, r.observer r.seen n = none) :
      Told n rs rs none
  | upTo {front back : List (Registration C)} {r : Registration C} {text : String}
      (hfront : ∀ r ∈ front, r.observer r.seen n = none) (hr : r.observer r.seen n = some text) :
      Told n (front ++ r :: back) (front ++ [r]) (some text)

theorem Told.cons {n : Notice C} {r : Registration C} {rs told : List (Registration C)}
    {failure : Option String} (hr : r.observer r.seen n = none) (h : Told n rs told failure) :
    Told n (r :: rs) (r :: told) failure := by
  cases h with
  | everyone h => exact .everyone (List.forall_mem_cons.mpr ⟨hr, h⟩)
  | @upTo front back _ _ hfront hlast =>
    have hcontent : ∀ q ∈ r :: front, q.observer q.seen n = none :=
      List.forall_mem_cons.mpr ⟨hr, hfront⟩
    exact .upTo hcontent hlast

theorem tell_of_failing {n : Notice C} {r : Registration C} {text : String}
    (h : r.observer r.seen n = some text) (rest : List (Registration C)) :
    tell n (r :: rest) = ⟨{ r with seen := n :: r.seen } :: rest, [r.id], some text⟩ := by
  simp only [tell, h]

theorem tell_of_content {n : Notice C} {r : Registration C} (h : r.observer r.seen n = none)
    (rest : List (Registration C)) :
    tell n (r :: rest) =
      ⟨{ r with seen := n :: r.seen } :: (tell n rest).observers, r.id :: (tell n rest).called,
        (tell n rest).failure⟩ := by
  simp only [tell, h]

/-- Among observers that do not fail nobody fails. -/
theorem failure_tell_of_content {n : Notice C} {rs : List (Registration C)}
    (h : ∀ r ∈ rs, r.observer r.seen n = none) : (tell n rs).failure = none := by
  induction rs with
  | nil => rfl
  | cons r rest ih =>
    obtain ⟨hr, hrest⟩ := List.forall_mem_cons.mp h
    rw [tell_of_content hr]
    exact ih hrest

theorem exists_told_tell (n : Notice C) (rs : List (Registration C)) :
    ∃ told, Told n rs told (tell n rs).failure ∧
      (tell n rs).called = told.map Registration.id := by
  induction rs with
  | nil => exact ⟨[], .everyone (List.forall_mem_nil _), rfl⟩
  | cons r rest ih =>
    cases h : r.observer r.seen n with
    | some text =>
      rw [tell_of_failing h]
      have hcontent : ∀ q ∈ ([] : List (Registration C)), q.observer q.seen n = none :=
        List.forall_mem_nil _
      exact ⟨[r], .upTo hcontent h, rfl⟩
    | none =>
      obtain ⟨told, htold, hcalled⟩ := ih
      rw [tell_of_content h]
      exact ⟨r :: told, htold.cons h, by rw [hcalled, List.map_cons]⟩

/-- The id under which an observer is registered, and the observer. -/
def Registration.entry (r : Registration C) : Nat × Observer C := (r.id, r.observer)

/-- Being told leaves an observer registered where it is. -/
theorem entry_tell (n : Notice C) (rs : List (Registration C)) :
    (tell n rs).observers.map Registration.entry = rs.map Registration.entry := by
  induction rs with
  | nil => rfl
  | cons r rest ih =>
    cases h : r.observer r.seen n with
    | some text =>
      rw [tell_of_failing h]
      rfl
    | none =>
      rw [tell_of_content h, List.map_cons, List.map_cons, ih]
      rfl

/-! ## Faults and admission -/

/-- The event that a call tells the observers about. -/
def Operation.event? : Operation C → Option Event
  | .send event => some event
  | _ => none

/-- The calls that lead to a new state and tell the observers about it. -/
def Operation.isMove : Operation C → Bool
  | .start _ | .startAt _ _ | .send _ => true
  | _ => false

/-- The error that a call fails with. -/
def Reply.error? {α : Type} (r : Reply C α) : Option InterpreterError :=
  match r.result with
  | .ok _ => none
  | .error e => some e

namespace Interpreter

/-- The observer calls that a call makes, in order. -/
def calls (i : Interpreter C) : Operation C → List (Nat × Notice C)
  | .withDefaultContext _ | .register _ | .unregister _ => []
  | .start context => (i.start context).calls
  | .startAt path context => (i.startAt path context).calls
  | .send event => (i.send event).calls
  | .stop => i.stop.calls

/-- The error that a call fails with. -/
def error? (i : Interpreter C) : Operation C → Option InterpreterError
  | .withDefaultContext _ | .register _ | .unregister _ => none
  | .start context => (i.start context).error?
  | .startAt path context => (i.startAt path context).error?
  | .send event => (i.send event).error?
  | .stop => i.stop.error?

/-- Why an interpreter takes no event and cannot be stopped. -/
def runFault? (i : Interpreter C) : Option InterpreterError :=
  if i.isRunning then none else some (.notRunning i.status)

/-- What is wrong with a call before any observer comes into play: first the time at which it comes,
then the state that it names. -/
def fault? (i : Interpreter C) : Operation C → Option InterpreterError
  | .withDefaultContext _ | .register _ | .unregister _ => none
  | .start _ => i.startFault?
  | .startAt path _ =>
    i.startFault?.or (if (i.machine.lookup path).isSome then none else some (.unknownState path))
  | .send _ | .stop => i.runFault?

/-- A start or an event gets past its checks: a start on an idle interpreter, at a state that there
is, and an event on a running one. -/
def admits (i : Interpreter C) : Operation C → Bool
  | .start _ => i.status == .idle
  | .startAt path _ => i.status == .idle && (i.machine.lookup path).isSome
  | .send _ => i.isRunning
  | _ => false

/-- The interpreter as an admitted call leaves it before anyone is told. -/
def committed (i : Interpreter C) : Operation C → Interpreter C
  | .start context => i.entered Machine.root context
  | .startAt path context => ((i.machine.lookup path).map fun q => i.entered q context).getD i
  | .send event => { i with active := (i.machine.transition i.active event.type).active }
  | _ => i

/-- The registered observers with their ids, in order. -/
def roster (i : Interpreter C) : List (Nat × Observer C) := i.observers.map Registration.entry

/-- What the observers are told by an admitted call. -/
def notice (i : Interpreter C) (op : Operation C) : Notice C :=
  ⟨(i.committed op).snapshot, op.event?⟩

/-- The round of notices of an admitted call. -/
def round (i : Interpreter C) (op : Operation C) : Round C := tell (i.notice op) i.observers

variable {i : Interpreter C} {op : Operation C}

theorem startFault?_eq_none_iff : i.startFault? = none ↔ i.status = .idle := by
  unfold startFault?
  cases i.status <;> simp

theorem isRunning_iff : i.isRunning = true ↔ i.status = .running := beq_iff_eq

theorem runFault?_eq_none_iff : i.runFault? = none ↔ i.isRunning = true := by
  unfold runFault?
  cases i.isRunning <;> simp

theorem runFault?_eq_some_iff {e : InterpreterError} :
    i.runFault? = some e ↔ ¬ i.isRunning = true ∧ e = .notRunning i.status := by
  unfold runFault?
  cases i.isRunning <;> simp [eq_comm]

theorem fault?_startAt_eq_none_iff {path : String} {context : Option C} :
    i.fault? (.startAt path context) = none ↔
      i.status = .idle ∧ (i.machine.lookup path).isSome = true := by
  rw [fault?, Option.or_eq_none_iff, startFault?_eq_none_iff]
  cases i.machine.lookup path <;> simp

/-- A start that names a state and gets past its checks enters that state. -/
theorem exists_entered_of_admits {path : String} {context : Option C}
    (h : i.admits (.startAt path context) = true) :
    i.status = .idle ∧ ∃ q, i.machine.lookup path = some q ∧
      i.committed (.startAt path context) = i.entered q context := by
  obtain ⟨hidle, hlookup⟩ := Bool.and_eq_true_iff.mp h
  obtain ⟨q, hq⟩ := Option.isSome_iff_exists.mp hlookup
  refine ⟨beq_iff_eq.mp hidle, q, hq, ?_⟩
  rw [committed, hq]
  rfl

/-! ## The three kinds of calls -/

theorem machine_committed (i : Interpreter C) (op : Operation C) :
    (i.committed op).machine = i.machine := by
  cases op with
  | startAt path context =>
    rw [committed]
    cases i.machine.lookup path <;> rfl
  | _ => rfl

theorem nextId_committed (i : Interpreter C) (op : Operation C) :
    (i.committed op).nextId = i.nextId := by
  cases op with
  | startAt path context =>
    rw [committed]
    cases i.machine.lookup path <;> rfl
  | _ => rfl

/-- A call at fault is refused: it changes nothing, tells nobody and fails with its fault. -/
theorem refused_of_fault? {e : InterpreterError} (h : i.fault? op = some e) :
    i.perform op = i ∧ i.calls op = [] ∧ i.error? op = some e := by
  cases op with
  | start context =>
    have hstart : i.startFault? = some e := h
    rw [perform, calls, error?, start, hstart]
    exact ⟨rfl, rfl, rfl⟩
  | startAt path context =>
    rw [perform, calls, error?, startAt]
    cases hstart : i.startFault? with
    | some e' =>
      rw [fault?, hstart] at h
      cases h
      exact ⟨rfl, rfl, rfl⟩
    | none =>
      cases hlookup : i.machine.lookup path with
      | some q =>
        have hnone : i.fault? (.startAt path context) = none := by
          rw [fault?_startAt_eq_none_iff, hlookup]
          exact ⟨startFault?_eq_none_iff.mp hstart, rfl⟩
        rw [hnone] at h
        cases h
      | none =>
        rw [fault?, hstart, hlookup] at h
        cases h
        exact ⟨rfl, rfl, rfl⟩
  | send event =>
    obtain ⟨hrunning, rfl⟩ := runFault?_eq_some_iff.mp h
    rw [perform, calls, error?, send, if_neg hrunning]
    exact ⟨rfl, rfl, rfl⟩
  | stop =>
    obtain ⟨hrunning, rfl⟩ := runFault?_eq_some_iff.mp h
    rw [perform, calls, error?, stop, if_neg hrunning]
    exact ⟨rfl, rfl, rfl⟩
  | _ => cases h

theorem error?_announce {α : Type} (i : Interpreter C) (event : Option Event) (a : α) :
    (i.announce event a).error? =
      (tell ⟨i.snapshot, event⟩ i.observers).failure.map .observer := by
  rw [announce, Reply.error?]
  cases (tell ⟨i.snapshot, event⟩ i.observers).failure <;> rfl

/-- An admitted call takes effect whatever the observers answer, and fails only with what the first
failing one of them says. -/
theorem perform_of_admits (h : i.admits op = true) :
    i.perform op = { i.committed op with observers := (i.round op).observers } ∧
      i.calls op = (i.round op).called.map (fun id => (id, i.notice op)) ∧
      i.error? op = (i.round op).failure.map .observer := by
  cases op with
  | start context =>
    rw [perform, calls, error?, start, startFault?_eq_none_iff.mpr (beq_iff_eq.mp h)]
    exact ⟨rfl, rfl, error?_announce ..⟩
  | startAt path context =>
    obtain ⟨hidle, q, hq, hcommitted⟩ := exists_entered_of_admits h
    rw [round, notice, hcommitted, perform, calls, error?, startAt,
      startFault?_eq_none_iff.mpr hidle]
    simp only [hq]
    exact ⟨rfl, rfl, error?_announce ..⟩
  | send event =>
    rw [admits] at h
    rw [perform, calls, error?, send, if_pos h]
    exact ⟨rfl, rfl, error?_announce ..⟩
  | _ => cases h

/-- An admitted call registers and removes nobody. -/
theorem roster_of_admits (h : i.admits op = true) : (i.perform op).roster = i.roster := by
  rw [(perform_of_admits h).1]
  exact entry_tell (i.notice op) i.observers

theorem admits_of_fault?_eq_none (hmove : op.isMove = true) (h : i.fault? op = none) :
    i.admits op = true := by
  cases op with
  | start context =>
    have hidle : i.status = .idle := startFault?_eq_none_iff.mp h
    exact beq_iff_eq.mpr hidle
  | startAt path context =>
    obtain ⟨hidle, hlookup⟩ := fault?_startAt_eq_none_iff.mp h
    exact Bool.and_eq_true_iff.mpr ⟨beq_iff_eq.mpr hidle, hlookup⟩
  | send event => exact runFault?_eq_none_iff.mp h
  | _ => cases hmove

/-- A call that is neither at fault nor admitted succeeds and tells nobody. -/
theorem silent_of_not_admits (hfault : i.fault? op = none) (h : ¬ i.admits op = true) :
    i.calls op = [] ∧ i.error? op = none := by
  have hmove : ¬ op.isMove = true := fun hmove => h (admits_of_fault?_eq_none hmove hfault)
  cases op with
  | start _ | startAt _ _ | send _ => exact absurd rfl hmove
  | stop =>
    have hrunning : i.isRunning = true := runFault?_eq_none_iff.mp hfault
    rw [calls, error?, stop, if_pos hrunning]
    exact ⟨rfl, rfl⟩
  | _ => exact ⟨rfl, rfl⟩

/-- Only an admitted call tells anyone. -/
theorem calls_of_not_admits (h : ¬ i.admits op = true) : i.calls op = [] := by
  cases hfault : i.fault? op with
  | some e => exact (refused_of_fault? hfault).2.1
  | none => exact (silent_of_not_admits hfault h).1

/-! ## What a call can do -/

/-- The ways in which a call can leave an interpreter. -/
inductive Effect (i : Interpreter C) : Operation C → Interpreter C → Prop
  | refused {op : Operation C} {e : InterpreterError} (h : i.fault? op = some e) : Effect i op i
  | admitted {op : Operation C} (h : i.admits op = true) :
      Effect i op { i.committed op with observers := (i.round op).observers }
  | withDefaultContext (context : C) :
      Effect i (.withDefaultContext context) (i.withDefaultContext context)
  | register (observer : Observer C) : Effect i (.register observer) (i.register observer).1
  | unregister (id : Nat) : Effect i (.unregister id) (i.unregister id).1
  | stop (h : i.isRunning = true) : Effect i .stop { i with status := .stopped, observers := [] }

theorem effect_perform (i : Interpreter C) (op : Operation C) : i.Effect op (i.perform op) := by
  by_cases hadmits : i.admits op = true
  · rw [(perform_of_admits hadmits).1]
    exact .admitted hadmits
  cases hfault : i.fault? op with
  | some e =>
    rw [(refused_of_fault? hfault).1]
    exact .refused hfault
  | none =>
    have hmove : ¬ op.isMove = true := fun hmove => hadmits (admits_of_fault?_eq_none hmove hfault)
    cases op with
    | start _ | startAt _ _ | send _ => exact absurd rfl hmove
    | withDefaultContext context => exact .withDefaultContext context
    | register observer => exact .register observer
    | unregister id => exact .unregister id
    | stop =>
      have hrunning : i.isRunning = true := runFault?_eq_none_iff.mp hfault
      rw [perform, stop, if_pos hrunning]
      exact .stop hrunning

theorem machine_perform (i : Interpreter C) (op : Operation C) :
    (i.perform op).machine = i.machine := by
  have heffect := i.effect_perform op
  generalize i.perform op = j at heffect ⊢
  cases heffect with
  | admitted _ => exact machine_committed i op
  | _ => rfl

/-- After a call the active path is what it was, or a state has been entered by a start, or it is
where an event has led. -/
theorem active_perform (i : Interpreter C) (op : Operation C) :
    (i.perform op).active = i.active ∨
      (i.perform op).active = i.machine.initialPath ∨
      (∃ path q, i.machine.lookup path = some q ∧ (i.perform op).active = i.machine.enter q) ∨
      ∃ event, (i.perform op).active = (i.machine.transition i.active event).active := by
  have heffect := i.effect_perform op
  generalize i.perform op = j at heffect ⊢
  cases heffect with
  | admitted h =>
    cases op with
    | start context => exact .inr (.inl rfl)
    | startAt path context =>
      obtain ⟨-, q, hq, hcommitted⟩ := exists_entered_of_admits h
      rw [hcommitted]
      exact .inr (.inr (.inl ⟨path, q, hq, rfl⟩))
    | send event => exact .inr (.inr (.inr ⟨event.type, rfl⟩))
    | _ => cases h
  | _ => exact .inl rfl

end Interpreter

end Statechart
