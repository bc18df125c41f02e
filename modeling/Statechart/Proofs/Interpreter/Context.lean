import Statechart.Proofs.Interpreter.Lifecycle
/-!
Where the context of an interpreter comes from. As long as no start has got past its checks an
interpreter is unstarted: it shows its default context and the initial path of its machine. The start
that gets past its checks puts the context that it is given, or the default one, in its place, and no
later call touches it. Main statement: the context at every point of a run, and that a start without
a context changes nothing of what an idle interpreter shows.
-/

namespace Statechart

open Json (Value)

variable {C : Type}

/-- A call sets the default context. -/
def Operation.setsDefault : Operation C → Bool
  | .withDefaultContext _ => true
  | _ => false

/-- The context that a start is given. -/
def Operation.context? : Operation C → Option C
  | .start context | .startAt _ context => context
  | _ => none

namespace Interpreter

variable {i : Interpreter C} {op : Operation C} {default : C}

/-! ## Before the start -/

/-- An idle interpreter in the initial state that shows its default context. -/
structure Unstarted (i : Interpreter C) (default : C) : Prop where
  status : i.status = .idle
  active : i.active = i.machine.initialPath
  context : i.context = default
  defaultContext : i.defaultContext = default

theorem unstarted_new (m : Machine) (context : C) : (new m context).Unstarted context :=
  ⟨rfl, rfl, rfl, rfl⟩

/-- A new default context is shown at once. -/
theorem Unstarted.withDefaultContext (h : i.Unstarted default) (context : C) :
    (i.withDefaultContext context).Unstarted context :=
  ⟨h.status, h.active, rfl, rfl⟩

/-- Of several default contexts the last one counts. -/
theorem Unstarted.withDefaultContexts (h : i.Unstarted default) (contexts : List C) :
    (i.performAll (contexts.map .withDefaultContext)).Unstarted
      (contexts.getLast?.getD default) := by
  induction contexts generalizing i default with
  | nil => exact h
  | cons context rest ih =>
    have hrest := ih (h.withDefaultContext context)
    rwa [List.getLast?_cons, Option.getD_some]

/-- A call that is no start getting past its checks leaves an interpreter unstarted. -/
theorem Unstarted.perform (h : i.Unstarted default) (hop : ¬ op.setsDefault = true)
    (hbegins : ¬ begins (i, op) = true) : (i.perform op).Unstarted default := by
  have hrunning : ¬ i.isRunning = true := by
    rw [isRunning_iff, h.status]
    exact nofun
  have heffect := i.effect_perform op
  generalize i.perform op = j at heffect ⊢
  cases heffect with
  | refused _ => exact h
  | admitted hadmits =>
    cases op with
    | start context => exact absurd hadmits hbegins
    | startAt path context => exact absurd hadmits hbegins
    | send event => exact absurd hadmits hrunning
    | _ => cases hadmits
  | withDefaultContext context => exact absurd rfl hop
  | register observer => exact ⟨h.status, h.active, h.context, h.defaultContext⟩
  | unregister id => exact ⟨h.status, h.active, h.context, h.defaultContext⟩
  | stop hstop => exact absurd hstop hrunning

theorem Unstarted.performAll (h : i.Unstarted default) {ops : List (Operation C)}
    (hops : ∀ op ∈ ops, ¬ op.setsDefault = true)
    (hbegins : ∀ s ∈ i.history ops, ¬ begins s = true) : (i.performAll ops).Unstarted default := by
  induction ops generalizing i with
  | nil => exact h
  | cons op rest ih =>
    obtain ⟨hop, hrest⟩ := List.forall_mem_cons.mp hops
    obtain ⟨hfirst, hlater⟩ := List.forall_mem_cons.mp hbegins
    exact ih (h.perform hop hfirst) hrest hlater

/-! ## The start -/

/-- A start that gets past its checks sets the context, also if an observer then fails. -/
theorem Unstarted.context_perform (h : i.Unstarted default) (hbegins : begins (i, op) = true) :
    (i.perform op).context = op.context?.getD default := by
  obtain ⟨hstart, hadmits⟩ := Bool.and_eq_true_iff.mp hbegins
  rw [(perform_of_admits hadmits).1]
  show (i.committed op).context = op.context?.getD default
  rw [← h.defaultContext]
  cases op with
  | start context => rfl
  | startAt path context =>
    obtain ⟨-, q, -, hcommitted⟩ := exists_entered_of_admits hadmits
    rw [hcommitted]
    rfl
  | _ => cases hstart

/-- A start without a context shows what was shown before it. -/
theorem Unstarted.snapshot_start (h : i.Unstarted default) :
    (i.start none).interpreter.snapshot = i.snapshot := by
  have hstart : (i.start none).interpreter.snapshot = (i.entered Machine.root none).snapshot := by
    rw [start, startFault?_eq_none_iff.mpr h.status]
    rfl
  have hactive : (i.entered Machine.root none).active = i.active := h.active.symm
  have hcontext : (i.entered Machine.root none).context = i.context :=
    h.defaultContext.trans h.context.symm
  rw [hstart, snapshot, snapshot, hactive, hcontext]
  rfl

/-- An interpreter that is idle at the end of a run is unstarted there. -/
theorem exists_unstarted_of_idle (h : i.Unstarted default) (ops : List (Operation C))
    (hidle : (i.performAll ops).status = .idle) :
    ∃ context, (i.performAll ops).Unstarted context := by
  refine performAll_induction (P := fun i => i.status = .idle → ∃ context, i.Unstarted context)
    ?_ (fun _ => ⟨default, h⟩) ops hidle
  intro i op ih hperform
  have hstatus : i.status = .idle := by
    by_contra hne
    exact (i.effect_perform op).precedes.ne_idle hne hperform
  obtain ⟨context, hi⟩ := ih hstatus
  by_cases hop : op.setsDefault = true
  · cases op with
    | withDefaultContext context' => exact ⟨context', hi.withDefaultContext context'⟩
    | _ => cases hop
  · refine ⟨context, hi.perform hop fun hbegins => ?_⟩
    rw [status_perform_of_begins hbegins] at hperform
    cases hperform

/-! ## After the start -/

/-- Once an interpreter is not idle any more, a call changes its context only by setting the default
one. -/
theorem context_perform_of_ne_idle (h : i.status ≠ .idle) (hop : ¬ op.setsDefault = true) :
    (i.perform op).context = i.context := by
  have heffect := i.effect_perform op
  generalize i.perform op = j at heffect ⊢
  cases heffect with
  | admitted hadmits =>
    cases op with
    | start context => exact absurd (idle_of_isStart rfl hadmits) h
    | startAt path context => exact absurd (idle_of_isStart rfl hadmits) h
    | send event => rfl
    | _ => cases hadmits
  | withDefaultContext context => exact absurd rfl hop
  | _ => rfl

theorem context_performAll_of_ne_idle (h : i.status ≠ .idle) {ops : List (Operation C)}
    (hops : ∀ op ∈ ops, ¬ op.setsDefault = true) : (i.performAll ops).context = i.context := by
  induction ops generalizing i with
  | nil => rfl
  | cons op rest ih =>
    obtain ⟨hop, hrest⟩ := List.forall_mem_cons.mp hops
    have hne : (i.perform op).status ≠ .idle := (i.effect_perform op).precedes.ne_idle h
    calc (i.performAll (op :: rest)).context
        = (i.perform op).context := ih hne hrest
      _ = i.context := context_perform_of_ne_idle h hop

/-! ## Whole runs -/

/-- The interpreters that have just been made over the machine of a definition, each with its default
context: one with what the definition declares, and one with null and then any number of others. -/
inductive Made (d : Definition) (m : Machine) : Interpreter Value → Value → Prop
  | declared : Made d m (ofMachine m) (d.context.getD .null)
  | plain (contexts : List Value) :
      Made d m ((new m .null).performAll (contexts.map .withDefaultContext))
        (contexts.getLast?.getD .null)

theorem Made.unstarted {d : Definition} {m : Machine} {i : Interpreter Value} {default : Value}
    (h : Machine.ofDefinition d = .ok m) (hi : Made d m i default) : i.Unstarted default := by
  cases hi with
  | declared =>
    have hcontext : m.context = d.context :=
      congrArg Definition.context (Machine.realizes_of_ofDefinition h).definition
    rw [ofMachine, hcontext]
    exact unstarted_new m _
  | plain contexts => exact (unstarted_new m .null).withDefaultContexts contexts

/-- The context is the default one until a start gets past its checks. From that start on it is the
one that the start was given, or else the default one, whatever comes after it. A start without a
context leaves what an idle interpreter shows as it is. -/
theorem context_set_by_start {d : Definition} {m : Machine} {i : Interpreter Value}
    {default : Value} (h : Machine.ofDefinition d = .ok m) (hi : Made d m i default) :
    (∀ front : List (Operation Value), (∀ op ∈ front, ¬ op.setsDefault = true) →
      (∀ s ∈ i.history front, ¬ begins s = true) →
      let j := i.performAll front
      j.context = default ∧
        ∀ op, begins (j, op) = true → ∀ back : List (Operation Value),
          (∀ op ∈ back, ¬ op.setsDefault = true) →
          ((j.perform op).performAll back).context = op.context?.getD default) ∧
    (∀ ops : List (Operation Value),
      let j := i.performAll ops
      j.status = .idle → (j.start none).interpreter.snapshot = j.snapshot) := by
  have hunstarted := hi.unstarted h
  refine ⟨?_, ?_⟩
  · intro front hfront hnot j
    have hj : j.Unstarted default := hunstarted.performAll hfront hnot
    refine ⟨hj.context, ?_⟩
    intro op hbegins back hback
    have hne : (j.perform op).status ≠ .idle := by
      rw [status_perform_of_begins hbegins]
      exact nofun
    calc ((j.perform op).performAll back).context
        = (j.perform op).context := context_performAll_of_ne_idle hne hback
      _ = op.context?.getD default := hj.context_perform hbegins
  · intro ops j hidle
    obtain ⟨context, hj⟩ := exists_unstarted_of_idle hunstarted ops hidle
    exact hj.snapshot_start

/-- A null that is given outlasts a failing observer, a second start, events and a stop. -/
theorem context_set_by_start_order :
    let contexts : List Value := [.bool false, .bool true]
    let front : List (Operation Value) := [.register fun _ _ => some "down",
      .send { type := "PAY" }, .startAt "nowhere" (some (.bool false))]
    let back : List (Operation Value) := [.start none, .send { type := "PAY" }, .stop]
    let i := (new Machine.order Value.null).performAll (contexts.map .withDefaultContext)
    let j := i.performAll front
    let start : Operation Value := .start (some .null)
    Machine.ofDefinition .order = .ok .order ∧ j.context = .bool true ∧
      j.error? start = some (.observer "down") ∧
      ((j.perform start).performAll back).context = .null ∧
      (j.start none).interpreter.snapshot = j.snapshot := by
  intro contexts front back i j start
  have hmade : Made .order Machine.order i (.bool true) := .plain contexts
  have hfront : ∀ op ∈ front, ¬ op.setsDefault = true := by
    simp [front, Operation.setsDefault]
  have hback : ∀ op ∈ back, ¬ op.setsDefault = true := by
    simp [back, Operation.setsDefault]
  have hnot : ∀ s ∈ i.history front, ¬ begins s = true := by
    intro s hs
    simp only [front, history, List.mem_cons, List.not_mem_nil, or_false] at hs
    rcases hs with rfl | rfl | rfl <;> exact Bool.false_ne_true
  obtain ⟨hset, hidle⟩ := context_set_by_start Machine.ofDefinition_order hmade
  obtain ⟨hbefore, hafter⟩ := hset front hfront hnot
  exact ⟨Machine.ofDefinition_order, hbefore, rfl, hafter start rfl back hback, hidle front rfl⟩

end Interpreter

end Statechart
