import Statechart.Proofs.Run.Passage
/-!
What a run reports of a script when it keeps going at failures. Every event has its step, in order:
the state is where the events so far have led, whatever the observer did, and a failure stands on
the step of the event whose notice the observer failed on. Main statement: such a run fails only if
the script cannot be started, and what its report says.
-/

namespace Statechart

open Json (Value)

namespace Report

variable {r : Report}

theorem final_of_nil (h : r.steps = []) : r.final = r.initial := by
  rw [final, h]
  rfl

theorem final_of_getLast? {step : ReportStep} (h : r.steps.getLast? = some step) :
    r.final = step.state := by
  rw [final, h]
  rfl

end Report

namespace Machine

variable {m : Machine} {s : Script} {o : Observer Value} {node k : Nat} {mode : OnFailure}

/-! ## The passages of a script -/

/-- The active path of a run after `k` events of its script. -/
def activeAt (m : Machine) (s : Script) (node k : Nat) : ActivePath :=
  m.pathAfter (m.enter node) (s.events.take k)

theorem activeAt_succ {event : Event} (h : s.events[k]? = some event) :
    m.activeAt s node (k + 1) = (m.transition (m.activeAt s node k) event.type).active := by
  simp only [activeAt, pathAfter, List.take_add_one, h, Option.toList_some, List.map_append,
    List.map_cons, List.map_nil, List.foldl_append, List.foldl_cons, List.foldl_nil]

/-- All notices of a run: that of the start and those of its events. -/
def notices (m : Machine) (s : Script) (o : Observer Value) (node : Nat) : List (Notice Value) :=
  m.opening s node :: (m.course s o node).map Passage.notice

/-- What the `k`-th passage of a run is. -/
structure PassesAt (m : Machine) (s : Script) (o : Observer Value) (node k : Nat) (p : Passage) :
    Prop where
  event : s.events[k]? = some p.event
  arrival : p.arrival = m.activeAt s node k
  notice : p.notice = ⟨⟨m.pathOf (m.activeAt s node (k + 1)), m.runContext s⟩, some p.event⟩
  /-- The start has the first notice, so that this event has the one at `k + 1`. -/
  given : (m.notices s o node)[k + 1]? = some p.notice
  answer : p.answer = o.answer? (m.notices s o node) (k + 1)

theorem passesAt_of_getElem? {p : Passage} (h : (m.course s o node)[k]? = some p) :
    m.PassesAt s o node k p := by
  have hgiven : (m.notices s o node)[k + 1]? = some p.notice := by
    rw [notices, List.getElem?_cons_succ, List.getElem?_map, h, Option.map_some]
  have hp := h
  rw [course, getElem?_passages, Option.map_eq_some_iff] at hp
  obtain ⟨event, hevent, rfl⟩ := hp
  refine ⟨hevent, rfl, ?_, hgiven, ?_⟩
  · rw [activeAt_succ hevent]
    rfl
  · rw [Observer.answer?, hgiven, notices, List.take_succ_cons, List.reverse_cons, ← List.map_take]
    rfl

theorem length_course (m : Machine) (s : Script) (o : Observer Value) (node : Nat) :
    (m.course s o node).length = s.events.length :=
  length_passages ..

/-! ## The result of a run -/

/-- A run whose script cannot be started fails, whatever failing events would do to it. -/
theorem run_of_startFails {e : InterpreterError} (h : m.StartFails s o e) :
    ∃ calls, ∀ mode, m.run mode s o = ⟨calls, .error e⟩ := by
  cases h with
  | unknown hpath hnone => exact ⟨_, fun _ => run_of_lookup_eq_none hpath hnone⟩
  | observer hnode htext => exact ⟨_, fun _ => run_of_opening_fails hnode htext⟩

theorem startFails_or_starts (m : Machine) (s : Script) (o : Observer Value) :
    (∃ e, m.StartFails s o e) ∨
      ∃ node, m.startNode? s = some node ∧ o [] (m.opening s node) = none := by
  cases hnode : m.startNode? s with
  | none =>
    obtain ⟨path, hpath, hlookup⟩ := startNode?_eq_none_iff.mp hnode
    exact .inl ⟨_, .unknown hpath hlookup⟩
  | some node =>
    cases hanswer : o [] (m.opening s node) with
    | some text => exact .inl ⟨_, .observer hnode hanswer⟩
    | none => exact .inr ⟨node, rfl, hanswer⟩

/-- A script that starts has a report if no passage ends its run, and its observer is given all
notices. -/
theorem run_of_not_ends (hnode : m.startNode? s = some node)
    (hanswer : o [] (m.opening s node) = none)
    (hends : ∀ p ∈ m.course s o node, ¬ mode.ends p = true) :
    m.run mode s o =
      ⟨m.notices s o node, .ok (m.reportOf s node ((m.course s o node).map m.stepOf))⟩ := by
  rw [run_of_opening hnode hanswer, OnFailure.reached_of_not_ends hends,
    OnFailure.outcome_of_not_ends hends]
  rfl

theorem run_keepGoing (hnode : m.startNode? s = some node)
    (hanswer : o [] (m.opening s node) = none) :
    m.run .keepGoing s o =
      ⟨m.notices s o node, .ok (m.reportOf s node ((m.course s o node).map m.stepOf))⟩ :=
  run_of_not_ends hnode hanswer fun p _ => OnFailure.not_ends_keepGoing p

/-- A run that keeps going fails only if its script cannot be started. -/
theorem result_keepGoing_eq_error_iff {e : InterpreterError} :
    (m.run .keepGoing s o).result = .error e ↔ m.StartFails s o e := by
  constructor
  · intro h
    rcases m.startFails_or_starts s o with ⟨e', hfails⟩ | ⟨node, hnode, hanswer⟩
    · obtain ⟨calls, hrun⟩ := run_of_startFails hfails
      rw [hrun] at h
      cases h
      exact hfails
    · rw [run_keepGoing hnode hanswer] at h
      cases h
  · intro hfails
    obtain ⟨calls, hrun⟩ := run_of_startFails hfails
    rw [hrun]

/-- A run with a report has started, and no passage has ended it. -/
theorem run_of_result {report : Report} (h : (m.run mode s o).result = .ok report) :
    ∃ node, m.startNode? s = some node ∧ o [] (m.opening s node) = none ∧
      report = m.reportOf s node ((m.course s o node).map m.stepOf) ∧
      m.run mode s o = ⟨m.notices s o node, .ok report⟩ := by
  rcases m.startFails_or_starts s o with ⟨e, hfails⟩ | ⟨node, hnode, hanswer⟩
  · obtain ⟨calls, hrun⟩ := run_of_startFails hfails
    rw [hrun] at h
    cases h
  · have hends : ∀ p ∈ m.course s o node, ¬ mode.ends p = true := by
      rw [run_of_opening hnode hanswer] at h
      cases houtcome : mode.outcome m (m.course s o node) with
      | ok steps => exact OnFailure.not_ends_of_outcome houtcome
      | error e =>
        rw [houtcome] at h
        cases h
    have hrun := run_of_not_ends hnode hanswer hends
    rw [hrun] at h
    cases h
    exact ⟨node, hnode, hanswer, rfl, hrun⟩

/-! ## What a report says -/

/-- What a step says of the `k`-th event of a script, in a run whose observer was given some
notices. -/
structure StepAccounts (m : Machine) (s : Script) (o : Observer Value) (node : Nat)
    (calls : List (Notice Value)) (k : Nat) (step : ReportStep) : Prop where
  event : s.events[k]? = some step.event
  state : step.state = m.pathOf (m.activeAt s node (k + 1))
  value : step.value = step.state.value
  /-- The notice of the event tells the state that the step shows. -/
  given : calls[k + 1]? = some ⟨⟨step.state, m.runContext s⟩, some step.event⟩
  error : step.error =
    (o.answer? calls (k + 1)).map fun text => (InterpreterError.observer text).message
  errorCode : step.errorCode =
    (o.answer? calls (k + 1)).map fun text => (InterpreterError.observer text).code
  handled : step.handled = true ↔ step.error = none ∧
    (m.transition (m.activeAt s node k) step.event.type).isHandled = true

/-- What a report says of a run that started at a position and whose observer was given some
notices. -/
structure ReportAccounts (m : Machine) (s : Script) (o : Observer Value) (node : Nat)
    (calls : List (Notice Value)) (report : Report) : Prop where
  machine : report.machine = m.id
  checksum : report.checksum = m.checksum
  initial : report.initial = m.pathOf (m.enter node)
  initialValue : report.initialValue = report.initial.value
  length_steps : report.steps.length = s.events.length
  length_calls : calls.length = s.events.length + 1
  step : ∀ k step, report.steps[k]? = some step → m.StepAccounts s o node calls k step
  context : report.context = s.context.getD (m.context.getD .null)
  status : report.status = .stopped
  final_of_nil : report.steps = [] → report.final = report.initial
  final_of_last : ∀ step, report.steps.getLast? = some step → report.final = step.state
  final : report.final = m.pathOf (m.activeAt s node s.events.length)

theorem PassesAt.stepAccounts {p : Passage} (h : m.PassesAt s o node k p) :
    m.StepAccounts s o node (m.notices s o node) k (m.stepOf p) := by
  have hstate : (m.stepOf p).state = m.pathOf (m.activeAt s node (k + 1)) := by
    rw [activeAt_succ h.event, ← h.arrival]
    rfl
  refine ⟨h.event, hstate, rfl, ?_, ?_, ?_, ?_⟩
  · rw [h.given, h.notice, hstate]
    rfl
  · rw [← h.answer]
    rfl
  · rw [← h.answer]
    rfl
  · rw [← h.arrival]
    show (p.answer.isNone && _) = true ↔ p.answer.map _ = none ∧ _
    rw [Bool.and_eq_true, Option.isNone_iff_eq_none, Option.map_eq_none_iff]
    rfl

theorem getElem?_map_stepOf {step : ReportStep}
    (h : ((m.course s o node).map m.stepOf)[k]? = some step) :
    ∃ p, m.PassesAt s o node k p ∧ m.stepOf p = step := by
  rw [List.getElem?_map, Option.map_eq_some_iff] at h
  obtain ⟨p, hp, hstep⟩ := h
  exact ⟨p, passesAt_of_getElem? hp, hstep⟩

/-- The final state is where all events have led. -/
theorem final_reportOf (m : Machine) (s : Script) (o : Observer Value) (node : Nat) :
    (m.reportOf s node ((m.course s o node).map m.stepOf)).final =
      m.pathOf (m.activeAt s node s.events.length) := by
  have hlength : ((m.course s o node).map m.stepOf).length = s.events.length := by
    rw [List.length_map, length_course]
  -- a report without steps shows the initial state, and no events lead nowhere else
  cases hlast : ((m.course s o node).map m.stepOf).getLast? with
  | none =>
    have hnil : (m.course s o node).map m.stepOf = [] := List.getLast?_eq_none_iff.mp hlast
    have hevents : s.events = [] := by
      rw [hnil] at hlength
      exact List.length_eq_zero_iff.mp hlength.symm
    rw [Report.final_of_nil hnil, activeAt, hevents]
    rfl
  | some step =>
    rw [Report.final_of_getLast? hlast]
    rw [List.getLast?_eq_getElem?, hlength] at hlast
    obtain ⟨p, hp, rfl⟩ := getElem?_map_stepOf hlast
    have hlt : s.events.length - 1 < s.events.length := by
      have hevent := hp.event
      exact (List.getElem?_eq_some_iff.mp hevent).1
    have hnumber : s.events.length - 1 + 1 = s.events.length := by omega
    rw [hp.stepAccounts.state, hnumber]

theorem notice_of_mem_passages {context : Value} {a : ActivePath} {seen : List (Notice Value)}
    {events : List Event} {p : Passage} (h : p ∈ m.passages o context a seen events) :
    p.notice = ⟨⟨(m.stepOf p).state, context⟩, some (m.stepOf p).event⟩ := by
  induction events generalizing a seen with
  | nil => cases h
  | cons event rest ih =>
    rw [passages] at h
    rcases List.mem_cons.mp h with rfl | h
    · rfl
    · exact ih h

/-- The notices of a run tell what its report says: the initial state, and for each step its event
and its state, always with the context of the run. -/
theorem notices_eq (m : Machine) (s : Script) (o : Observer Value) (node : Nat) :
    let report := m.reportOf s node ((m.course s o node).map m.stepOf)
    m.notices s o node =
      ⟨⟨report.initial, report.context⟩, none⟩ ::
        report.steps.map fun step => ⟨⟨step.state, report.context⟩, some step.event⟩ := by
  intro report
  have hsteps : (m.course s o node).map Passage.notice =
      report.steps.map fun step => ⟨⟨step.state, report.context⟩, some step.event⟩ := by
    show _ = ((m.course s o node).map m.stepOf).map _
    rw [List.map_map]
    apply List.map_congr_left
    intro p hp
    exact notice_of_mem_passages hp
  rw [notices, hsteps]
  rfl

theorem reportAccounts (m : Machine) (s : Script) (o : Observer Value) (node : Nat) :
    m.ReportAccounts s o node (m.notices s o node)
      (m.reportOf s node ((m.course s o node).map m.stepOf)) where
  machine := rfl
  checksum := rfl
  initial := rfl
  initialValue := rfl
  length_steps := by
    show ((m.course s o node).map m.stepOf).length = s.events.length
    rw [List.length_map, length_course]
  length_calls := by
    rw [notices, List.length_cons, List.length_map, length_course]
  step := by
    intro k step hstep
    obtain ⟨p, hp, rfl⟩ := getElem?_map_stepOf hstep
    exact hp.stepAccounts
  context := rfl
  status := rfl
  final_of_nil := Report.final_of_nil
  final_of_last := fun _ => Report.final_of_getLast?
  final := m.final_reportOf s o node

/-- Every report accounts for its run, in both modes. -/
theorem reportAccounts_of_result {report : Report} (h : (m.run mode s o).result = .ok report) :
    ∃ node, m.startNode? s = some node ∧ o.answer? (m.run mode s o).calls 0 = none ∧
      m.ReportAccounts s o node (m.run mode s o).calls report := by
  obtain ⟨node, hnode, hanswer, rfl, hrun⟩ := run_of_result h
  rw [hrun]
  exact ⟨node, hnode, hanswer, m.reportAccounts s o node⟩

/-- A run that keeps going fails only if its script cannot be started: it names no state, or the
observer fails on the first notice. In every other case it has a report, with one step for each
event in order, and the states are those of the transitions of the machine. -/
theorem report_keepGoing (m : Machine) (s : Script) (o : Observer Value) :
    let r := m.run .keepGoing s o
    (∀ e, r.result = .error e ↔ m.StartFails s o e) ∧
      ∀ report, r.result = .ok report → ∃ node, m.startNode? s = some node ∧
        o.answer? r.calls 0 = none ∧ m.ReportAccounts s o node r.calls report := by
  intro r
  exact ⟨fun e => result_keepGoing_eq_error_iff, fun report h => reportAccounts_of_result h⟩

/-- An observer that fails on the first of two payments: the second step is not touched by it. -/
theorem report_keepGoing_order :
    let s : Script := { events := [{ type := "PAY", payload := some .null }, { type := "PAY" }] }
    let o : Observer Value := fun seen _ => if seen.length = 1 then some "down" else none
    let r := Machine.order.run .keepGoing s o
    ∃ report, r.result = .ok report ∧ report.steps.length = 2 ∧
      (∀ step, report.steps[0]? = some step → step.errorCode = some "OBSERVER_FAILED") ∧
      (∀ step, report.steps[1]? = some step → step.error = none) ∧
      report.final = order.pathOf (order.activeAt s root 2) := by
  intro s o r
  obtain ⟨hfails, haccounts⟩ := report_keepGoing order s o
  obtain ⟨report, hreport⟩ : ∃ report, r.result = .ok report := ⟨_, rfl⟩
  obtain ⟨node, hnode, -, h⟩ := haccounts report hreport
  cases hnode
  refine ⟨report, hreport, h.length_steps, ?_, ?_, h.final⟩
  · intro step hstep
    rw [(h.step 0 step hstep).errorCode]
    rfl
  · intro step hstep
    rw [(h.step 1 step hstep).error]
    rfl

end Machine

end Statechart
