import Statechart.Proofs.Interpreter.Call
import Statechart.Proofs.Machine.Built
/-!
Calls that fail. A refused call changes nothing. A call whose round of notices ends with a failing
observer has taken effect in full: the interpreter stands where it would stand if no observer had
failed. Main statement: a failure is one or the other, and an admitted call can only fail the second
way.
-/

namespace Statechart

/-- The errors of calls that are not carried out. -/
def InterpreterError.IsRefusal : InterpreterError → Prop
  | notRunning _ | alreadyRunning | unknownState _ => True
  | definition _ | observer _ => False

namespace Interpreter

variable {C : Type}

/-- The interpreter with observers that never fail in the place of its own. -/
def muted (i : Interpreter C) : Interpreter C :=
  { i with observers := i.observers.map fun r => { r with observer := .silent } }

variable {i : Interpreter C} {op : Operation C}

theorem admits_muted (i : Interpreter C) (op : Operation C) :
    i.muted.admits op = i.admits op := by
  cases op <;> rfl

theorem committed_muted (i : Interpreter C) (op : Operation C) :
    i.muted.committed op = (i.committed op).muted := by
  cases op with
  | startAt path context =>
    show (((i.machine.lookup path).map fun q => i.muted.entered q context).getD i.muted) =
      (((i.machine.lookup path).map fun q => i.entered q context).getD i).muted
    cases i.machine.lookup path <;> rfl
  | _ => rfl

/-- Nobody fails a round among observers that never fail. -/
theorem failure_tell_muted (n : Notice C) (rs : List (Registration C)) :
    (tell n (rs.map fun r => { r with observer := .silent })).failure = none := by
  refine failure_tell_of_content ?_
  intro r hr
  obtain ⟨r', -, rfl⟩ := List.mem_map.mp hr
  rfl

/-! ## Admitted calls -/

/-- With observers that never fail an admitted call succeeds, and it leads where it leads with the
observers there are. -/
theorem perform_muted_of_admits (h : i.admits op = true) :
    i.muted.error? op = none ∧
      (i.muted.perform op).status = (i.perform op).status ∧
      (i.muted.perform op).active = (i.perform op).active ∧
      (i.muted.perform op).context = (i.perform op).context ∧
      (i.muted.perform op).roster.map Prod.fst = (i.perform op).roster.map Prod.fst := by
  have hmuted : i.muted.admits op = true := (admits_muted i op).trans h
  have hroster : (i.muted.perform op).roster.map Prod.fst = (i.perform op).roster.map Prod.fst := by
    rw [roster_of_admits hmuted, roster_of_admits h]
    simp only [roster, muted, List.map_map, Function.comp_def, Registration.entry]
  obtain ⟨hperform, -, -⟩ := perform_of_admits h
  obtain ⟨hperform', -, herror⟩ := perform_of_admits hmuted
  refine ⟨?_, ?_, ?_, ?_, hroster⟩
  · rw [herror, round, muted, failure_tell_muted]
    rfl
  all_goals rw [hperform, hperform', committed_muted]; rfl

/-- An admitted call fails only if an observer does. -/
theorem exists_observer_of_admits (h : i.admits op = true) {e : InterpreterError}
    (he : i.error? op = some e) : ∃ text, e = .observer text := by
  rw [(perform_of_admits h).2.2] at he
  obtain ⟨text, -, rfl⟩ := Option.map_eq_some_iff.mp he
  exact ⟨text, rfl⟩

/-! ## Failures -/

theorem isLifecycle_of_startFault? {e : InterpreterError} (h : i.startFault? = some e) :
    e.isLifecycle = true := by
  unfold startFault? at h
  cases hstatus : i.status <;> rw [hstatus] at h <;> cases h <;> rfl

theorem isRefusal_of_isLifecycle {e : InterpreterError} (h : e.isLifecycle = true) :
    e.IsRefusal := by
  cases e with
  | notRunning status => trivial
  | alreadyRunning => trivial
  | _ => cases h

theorem isRefusal_of_fault? {e : InterpreterError} (h : i.fault? op = some e) : e.IsRefusal := by
  have hrun : i.runFault? = some e → e.IsRefusal := by
    intro hfault
    obtain ⟨-, rfl⟩ := runFault?_eq_some_iff.mp hfault
    trivial
  cases op with
  | start context => exact isRefusal_of_isLifecycle (isLifecycle_of_startFault? h)
  | startAt path context =>
    rcases Option.or_eq_some_iff.mp h with hstart | ⟨-, hlookup⟩
    · exact isRefusal_of_isLifecycle (isLifecycle_of_startFault? hstart)
    · cases hq : i.machine.lookup path with
      | some q =>
        rw [hq] at hlookup
        cases hlookup
      | none =>
        rw [hq] at hlookup
        cases hlookup
        trivial
  | send event => exact hrun h
  | stop => exact hrun h
  | _ => cases h

/-- A call that fails was refused and has changed nothing, or an observer failed and the call has
done what it does when nobody fails. A start that comes at the wrong time says so even if it names no
state; an admitted call fails only through an observer, and a running interpreter can be stopped. -/
theorem unchanged_or_committed (i : Interpreter C) (op : Operation C) :
    (∀ e, i.error? op = some e →
      (e.IsRefusal ∧ i.perform op = i ∧ i.calls op = []) ∨
      ((∃ text, e = .observer text) ∧
        i.muted.error? op = none ∧
        (i.muted.perform op).status = (i.perform op).status ∧
        (i.muted.perform op).active = (i.perform op).active ∧
        (i.muted.perform op).context = (i.perform op).context ∧
        (i.muted.perform op).roster.map Prod.fst = (i.perform op).roster.map Prod.fst ∧
        (i.perform op).roster = i.roster)) ∧
    (∀ path context, i.status ≠ .idle →
      ∃ e, i.error? (.startAt path context) = some e ∧ e.isLifecycle = true) ∧
    (i.admits op = true → ∀ e, i.error? op = some e → ∃ text, e = .observer text) ∧
    (i.status = .running → i.stop.result = .ok ()) := by
  refine ⟨?_, ?_, ?_, ?_⟩
  · intro e he
    by_cases hadmits : i.admits op = true
    · obtain ⟨hsucceeds, hstatus, hactive, hcontext, hids⟩ := perform_muted_of_admits hadmits
      exact .inr ⟨exists_observer_of_admits hadmits he, hsucceeds, hstatus, hactive, hcontext, hids,
        roster_of_admits hadmits⟩
    · cases hfault : i.fault? op with
      | none =>
        rw [(silent_of_not_admits hfault hadmits).2] at he
        cases he
      | some e' =>
        obtain ⟨hperform, hcalls, herror⟩ := refused_of_fault? hfault
        rw [herror] at he
        cases he
        exact .inl ⟨isRefusal_of_fault? hfault, hperform, hcalls⟩
  · intro path context hstatus
    have hsome : i.startFault? ≠ none := fun h => hstatus (startFault?_eq_none_iff.mp h)
    obtain ⟨e, he⟩ := Option.ne_none_iff_exists'.mp hsome
    have hfault : i.fault? (.startAt path context) = some e := by
      rw [fault?, he, Option.some_or]
    exact ⟨e, (refused_of_fault? hfault).2.2, isLifecycle_of_startFault? he⟩
  · intro hadmits e he
    exact exists_observer_of_admits hadmits he
  · intro hstatus
    rw [stop, if_pos (isRunning_iff.mpr hstatus)]

/-- A start whose observer fails leaves the interpreter running all the same. -/
theorem unchanged_or_committed_order :
    let i := (new Machine.order ()).perform (.register fun _ _ => some "down")
    i.error? (.start none) = some (.observer "down") ∧
      i.muted.error? (.start none) = none ∧
      (i.muted.perform (.start none)).status = (i.perform (.start none)).status := by
  intro i
  have herror : i.error? (.start none) = some (.observer "down") := rfl
  rcases (unchanged_or_committed i (.start none)).1 _ herror with
    ⟨hrefusal, -⟩ | ⟨-, hsucceeds, hstatus, -⟩
  · exact hrefusal.elim
  · exact ⟨herror, hsucceeds, hstatus⟩

end Interpreter

end Statechart
