import Statechart.Proofs.Interpreter.Call
import Statechart.Proofs.Machine.Built
/-!
The life of an interpreter. An interpreter that is not idle never becomes idle again, so a run has at
most one start that gets past its checks. A stopped interpreter admits nothing, so it tells nobody
and stays as it is. Main statement: the order of the stages over a whole run, and what is frozen from
the first stop on.
-/

namespace Statechart

/-- A stage of life is followed by itself or by the next one. -/
inductive Status.Precedes : Status → Status → Prop
  | stay (s : Status) : Precedes s s
  | start : Precedes .idle .running
  | stop : Precedes .running .stopped

theorem Status.Precedes.ne_idle {s t : Status} (h : s.Precedes t) (hs : s ≠ .idle) : t ≠ .idle := by
  cases h with
  | stay => exact hs
  | start => exact absurd rfl hs
  | stop => exact nofun

/-- The two ways of starting. -/
def Operation.isStart {C : Type} : Operation C → Bool
  | .start _ | .startAt _ _ => true
  | _ => false

theorem Operation.isMove_of_isStart {C : Type} {op : Operation C} (h : op.isStart = true) :
    op.isMove = true := by
  cases op with
  | start _ | startAt _ _ => rfl
  | _ => cases h

namespace Interpreter

variable {C : Type} {i j : Interpreter C} {op : Operation C}

/-! ## One call -/

theorem status_committed (h : i.admits op = true) : (i.committed op).status = .running := by
  cases op with
  | start context => rfl
  | startAt path context =>
    obtain ⟨-, q, -, hcommitted⟩ := exists_entered_of_admits h
    rw [hcommitted]
    rfl
  | send event => exact isRunning_iff.mp h
  | _ => cases h

theorem not_admits_of_stopped (hs : i.status = .stopped) (op : Operation C) :
    ¬ i.admits op = true := by
  cases op <;> simp [admits, isRunning, hs]

/-- A start gets past its checks only on an idle interpreter. -/
theorem idle_of_isStart (hstart : op.isStart = true) (h : i.admits op = true) :
    i.status = .idle := by
  cases op with
  | start context => exact beq_iff_eq.mp h
  | startAt path context => exact beq_iff_eq.mp (Bool.and_eq_true_iff.mp h).1
  | _ => cases hstart

/-- A call leaves an interpreter at the same stage of its life or takes it to the next one. -/
theorem Effect.precedes (h : i.Effect op j) : i.status.Precedes j.status := by
  cases h with
  | refused _ => exact .stay _
  | admitted h =>
    show i.status.Precedes (i.committed op).status
    rw [status_committed h]
    cases hstatus : i.status with
    | idle => exact .start
    | running => exact .stay _
    | stopped => exact absurd h (not_admits_of_stopped hstatus op)
  | withDefaultContext context => exact .stay _
  | register observer => exact .stay _
  | unregister id => exact .stay _
  | stop h =>
    show i.status.Precedes .stopped
    rw [isRunning_iff.mp h]
    exact .stop

/-- A call on a stopped interpreter leaves it stopped and in its state; the context can change only
together with the default one. -/
theorem Effect.frozen (h : i.Effect op j) (hs : i.status = .stopped) :
    j.status = .stopped ∧ j.availableEvents = i.availableEvents ∧
      ((∀ context, op ≠ .withDefaultContext context) → j.snapshot = i.snapshot) := by
  cases h with
  | refused _ => exact ⟨hs, rfl, fun _ => rfl⟩
  | admitted h => exact absurd h (not_admits_of_stopped hs op)
  | withDefaultContext context => exact ⟨hs, rfl, fun hne => absurd rfl (hne context)⟩
  | register observer => exact ⟨hs, rfl, fun _ => rfl⟩
  | unregister id => exact ⟨hs, rfl, fun _ => rfl⟩
  | stop h =>
    rw [isRunning_iff.mp h] at hs
    cases hs

/-- A stopped interpreter is not running, whatever it is asked to do. -/
theorem error?_of_stopped (hs : i.status = .stopped) (hop : op.isMove = true ∨ op = .stop) :
    i.error? op = some (.notRunning .stopped) := by
  have hstart : i.startFault? = some (.notRunning .stopped) := by
    rw [startFault?, hs]
  have hrun : i.runFault? = some (.notRunning .stopped) := by
    rw [runFault?_eq_some_iff, isRunning_iff, hs]
    exact ⟨nofun, rfl⟩
  have hfault : i.fault? op = some (.notRunning .stopped) := by
    rcases hop with hmove | rfl
    · cases op with
      | start context => exact hstart
      | startAt path context => rw [fault?, hstart, Option.some_or]
      | send event => exact hrun
      | _ => cases hmove
    · exact hrun
  exact (refused_of_fault? hfault).2.2

/-! ## Starts in a run -/

/-- A call of a run is a start that gets past its checks. -/
def begins (s : Interpreter C × Operation C) : Bool := s.2.isStart && s.1.admits s.2

theorem status_perform_of_begins (h : begins (i, op) = true) :
    (i.perform op).status = .running := by
  obtain ⟨-, hadmits⟩ := Bool.and_eq_true_iff.mp h
  rw [(perform_of_admits hadmits).1]
  exact status_committed hadmits

/-- A call of a run tells an observer about a start. -/
def tellsOfStart (s : Interpreter C × Operation C) : Bool :=
  (s.1.calls s.2).any fun c => c.2.event.isNone

theorem begins_of_tellsOfStart {s : Interpreter C × Operation C} (h : tellsOfStart s = true) :
    begins s = true := by
  obtain ⟨i, op⟩ := s
  obtain ⟨c, hc, hnone⟩ := List.any_eq_true.mp h
  by_cases hadmits : i.admits op = true
  · -- every notice of an admitted call has the event of the call
    rw [show i.calls op = _ from (perform_of_admits hadmits).2.1] at hc
    obtain ⟨id, -, rfl⟩ := List.mem_map.mp hc
    have hstart : op.isStart = true := by
      cases op with
      | start _ | startAt _ _ => rfl
      | send event => cases hnone
      | _ => cases hadmits
    exact Bool.and_eq_true_iff.mpr ⟨hstart, hadmits⟩
  · rw [show i.calls op = [] from calls_of_not_admits hadmits] at hc
    cases hc

theorem countP_begins_of_ne_idle (h : i.status ≠ .idle) (ops : List (Operation C)) :
    (i.history ops).countP begins = 0 := by
  induction ops generalizing i with
  | nil => rfl
  | cons op rest ih =>
    have hnot : ¬ begins (i, op) = true := by
      intro hbegins
      obtain ⟨hstart, hadmits⟩ := Bool.and_eq_true_iff.mp hbegins
      exact h (idle_of_isStart hstart hadmits)
    rw [history, List.countP_cons_of_neg hnot]
    exact ih ((i.effect_perform op).precedes.ne_idle h)

/-- After the first start that gets past its checks no other one does. -/
theorem countP_begins_le_one (i : Interpreter C) (ops : List (Operation C)) :
    (i.history ops).countP begins ≤ 1 := by
  induction ops generalizing i with
  | nil => exact Nat.zero_le 1
  | cons op rest ih =>
    by_cases hbegins : begins (i, op) = true
    · have hne : (i.perform op).status ≠ .idle := by
        rw [status_perform_of_begins hbegins]
        exact nofun
      have hone : (i.history (op :: rest)).countP begins = 1 := by
        rw [history, List.countP_cons_of_pos hbegins, countP_begins_of_ne_idle hne]
      exact Nat.le_of_eq hone
    · rw [history, List.countP_cons_of_neg hbegins]
      exact ih (i.perform op)

/-! ## After a stop -/

theorem performAll_of_stopped (hs : i.status = .stopped) (ops : List (Operation C)) :
    (i.performAll ops).status = .stopped ∧
      (i.performAll ops).availableEvents = i.availableEvents ∧
      ((∀ context, .withDefaultContext context ∉ ops) →
        (i.performAll ops).snapshot = i.snapshot) := by
  induction ops generalizing i with
  | nil => exact ⟨hs, rfl, fun _ => rfl⟩
  | cons op rest ih =>
    obtain ⟨hstatus, hevents, hsnapshot⟩ := (i.effect_perform op).frozen hs
    obtain ⟨hstatus', hevents', hsnapshot'⟩ := ih hstatus
    refine ⟨hstatus', hevents'.trans hevents, ?_⟩
    intro hnot
    have hop : ∀ context, op ≠ .withDefaultContext context := by
      intro context heq
      exact hnot context (heq ▸ List.mem_cons_self)
    have hrest : ∀ context, .withDefaultContext context ∉ rest := fun context hmem =>
      hnot context (List.mem_cons_of_mem op hmem)
    exact (hsnapshot' hrest).trans (hsnapshot hop)

/-- Over a whole run the status goes from idle to running to stopped; at most one start gets past its
checks, and at most one call tells observers about a start. From a stop that succeeds on the
interpreter stays stopped in its state, refuses every start, event and stop, and tells nobody. -/
theorem lifecycle (m : Machine) (context : C) (ops : List (Operation C)) :
    let i := (new m context).performAll ops
    (∀ s ∈ (new m context).history ops, s.1.status.Precedes (s.1.perform s.2).status) ∧
    ((new m context).history ops).countP begins ≤ 1 ∧
    ((new m context).history ops).countP tellsOfStart ≤ 1 ∧
    (i.stop.result = .ok () → ∀ rest : List (Operation C),
      let j := (i.perform .stop).performAll rest
      j.status = .stopped ∧
      (∀ op : Operation C, op.isMove = true ∨ op = .stop →
        j.error? op = some (.notRunning .stopped)) ∧
      j.availableEvents = i.availableEvents ∧
      ((∀ context, .withDefaultContext context ∉ rest) → j.snapshot = i.snapshot) ∧
      ∀ op, j.calls op = []) := by
  intro i
  have hone := countP_begins_le_one (new m context) ops
  refine ⟨?_, hone, ?_, ?_⟩
  · intro s _
    exact (s.1.effect_perform s.2).precedes
  · have hle : ((new m context).history ops).countP tellsOfStart ≤
        ((new m context).history ops).countP begins :=
      List.countP_mono_left fun s _ => begins_of_tellsOfStart
    exact Nat.le_trans hle hone
  · intro hstop rest j
    have hrunning : i.isRunning = true := by
      by_contra hnot
      rw [stop, if_neg hnot] at hstop
      cases hstop
    have hperform : i.perform .stop = { i with status := .stopped, observers := [] } := by
      rw [perform, stop, if_pos hrunning]
    have hstopped : (i.perform .stop).status = .stopped := by
      rw [hperform]
    -- the stop itself keeps the path and the context too
    have hsame : (i.perform .stop).availableEvents = i.availableEvents ∧
        (i.perform .stop).snapshot = i.snapshot := by
      rw [hperform]
      exact ⟨rfl, rfl⟩
    obtain ⟨hstatus, hevents, hsnapshot⟩ := performAll_of_stopped hstopped rest
    refine ⟨hstatus, fun op => error?_of_stopped hstatus, hevents.trans hsame.1, ?_, ?_⟩
    · exact fun hnot => (hsnapshot hnot).trans hsame.2
    · exact fun op => calls_of_not_admits (not_admits_of_stopped hstatus op)

/-- An observer that is registered after the stop hears nothing. -/
theorem lifecycle_order :
    let i := (new Machine.order ()).performAll [.start none, .send { type := "PAY" }]
    let j := (i.perform .stop).performAll [.register .silent, .send { type := "SHIP" }]
    i.stop.result = .ok () ∧ j.snapshot = i.snapshot ∧ j.calls (.start none) = [] := by
  intro i j
  have hstop : i.stop.result = .ok () := rfl
  obtain ⟨-, -, -, hfrozen⟩ :=
    lifecycle Machine.order () [.start none, .send { type := "PAY" }]
  obtain ⟨-, -, -, hsnapshot, hcalls⟩ :=
    hfrozen hstop [.register .silent, .send { type := "SHIP" }]
  exact ⟨hstop, hsnapshot (by simp), hcalls (.start none)⟩

end Interpreter

end Statechart
