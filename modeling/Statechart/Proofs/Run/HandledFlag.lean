import Statechart.Proofs.Run.Account
import Statechart.Proofs.Interpreter.Offers
/-!
What the flag on a step tells. An event is handled if some active state has a transition for it, and
an event that is not handled leaves the state as it is. The flag of a step says whether its event was
handled, except where the observer failed on the event: there it is down, also if the event was
handled and has led elsewhere. Main statement: when the flag is up, when it tells the truth, and the
run in which it does not.
-/

namespace Statechart

open Json (Value)

/-- The state before the `k`-th step: that of the step before it, or the initial one. -/
def Report.before (r : Report) : Nat → StatePath
  | 0 => r.initial
  | k + 1 => (r.steps[k]?.map ReportStep.state).getD r.initial

namespace Machine

variable {m : Machine} {s : Script} {o : Observer Value} {node k : Nat} {mode : OnFailure}
  {a : ActivePath} {event : String}

/-- The state before a step is that of the active path on which its event arrived. -/
theorem ReportAccounts.before_eq {calls : List (Notice Value)} {report : Report}
    (h : m.ReportAccounts s o node calls report) {step : ReportStep}
    (hstep : report.steps[k]? = some step) :
    report.before k = m.pathOf (m.activeAt s node k) := by
  cases k with
  | zero => exact h.initial
  | succ k =>
    have hlt : k < report.steps.length := by
      have hle := (List.getElem?_eq_some_iff.mp hstep).1
      omega
    have hprevious := List.getElem?_eq_getElem hlt
    rw [Report.before, hprevious, Option.map_some, Option.getD_some,
      (h.step k _ hprevious).state]

/-- In every report, in both modes and with any observer: the flag of a step is up if and only if
some state on the active path before its event has a transition for it and the observer did not fail
on the event. So it tells whether the event was handled, unless the observer failed on an event that
was. An event that was not handled has left the state as it was before the step. -/
theorem handled_iff {report : Report} (h : (m.run mode s o).result = .ok report) :
    ∃ node, m.startNode? s = some node ∧ ∀ k step, report.steps[k]? = some step →
      let handles := m.Handles (m.activeAt s node k) step.event.type
      report.before k = m.pathOf (m.activeAt s node k) ∧
        (step.handled = true ↔ handles ∧ step.error = none) ∧
        ((step.handled = true ↔ handles) ↔ ¬ (handles ∧ step.error ≠ none)) ∧
        (¬ handles → step.state = report.before k) ∧
        (step.handled = false → step.error = none → step.state = report.before k) := by
  obtain ⟨node, hnode, -, haccounts⟩ := reportAccounts_of_result h
  refine ⟨node, hnode, fun k step hstep => ?_⟩
  intro handles
  have hs := haccounts.step k step hstep
  have hbefore := haccounts.before_eq hstep
  -- a failure puts the flag down whatever the event did, so that both conditions are needed
  have hup : step.handled = true ↔ handles ∧ step.error = none := by
    rw [hs.handled, isHandled_transition_iff, and_comm]
  have hunchanged : ¬ handles → step.state = report.before k := by
    intro hignored
    rw [hs.state, hbefore, activeAt_succ hs.event, active_transition_of_not_handles hignored]
  refine ⟨hbefore, hup, ?_, hunchanged, ?_⟩
  · rw [hup]
    tauto
  · intro hdown hquiet
    refine hunchanged fun hhandles => ?_
    rw [hup.mpr ⟨hhandles, hquiet⟩] at hdown
    cases hdown

theorem handles_pay_order : order.Handles (order.enter root) "PAY" := by
  have hpending : 1 ∈ (order.enter root).nodes := by decide +kernel
  exact ⟨1, hpending, rfl⟩

/-- A payment, which the pending order has a transition for, and another one, which is ignored. -/
theorem handled_iff_order :
    ∃ report paid again,
      (order.run .stop (Script.ofTypes ["PAY", "PAY"]) .silent).result = .ok report ∧
        report.steps = [paid, again] ∧ paid.handled = true ∧ again.handled = false ∧
        again.state = report.before 1 := by
  obtain ⟨report, paid, again, hreport, hsteps, hpay, hquiet, hdown, hquiet'⟩ :
      ∃ report paid again,
        (order.run .stop (Script.ofTypes ["PAY", "PAY"]) .silent).result = .ok report ∧
          report.steps = [paid, again] ∧ paid.event.type = "PAY" ∧ paid.error = none ∧
          again.handled = false ∧ again.error = none :=
    ⟨_, _, _, rfl, rfl, rfl, rfl, rfl, rfl⟩
  obtain ⟨node, hnode, h⟩ := handled_iff hreport
  cases hnode
  obtain ⟨-, hup, -⟩ := h 0 paid (by rw [hsteps]; rfl)
  obtain ⟨-, -, -, -, hunchanged⟩ := h 1 again (by rw [hsteps]; rfl)
  have hhandles : order.Handles (order.enter root) paid.event.type := hpay ▸ handles_pay_order
  exact ⟨report, paid, again, hreport, hsteps, hup.mpr ⟨hhandles, hquiet⟩, hdown,
    hunchanged hdown hquiet'⟩

/-- An observer that fails on a payment: the flag of the step is down, although the pending order has
a transition for the payment and is paid afterwards. -/
theorem handled_down_of_failed_order :
    ∃ report step, (order.run .keepGoing (Script.ofTypes ["PAY"])
        fun _ n => n.event.map fun _ => "down").result = .ok report ∧
      report.steps = [step] ∧ step.handled = false ∧
      order.Handles (order.enter root) step.event.type ∧
      report.initial.display = "order.pending" ∧
      step.state.display = "order.active.processing" :=
  ⟨_, _, rfl, rfl, rfl, handles_pay_order, rfl, rfl⟩

end Machine

end Statechart
