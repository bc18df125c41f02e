import Statechart.Proofs.Run.Account
/-!
The two things that a failing event can do to a run. The passages of a script are the same for both;
a run that stops has those up to and including the first failure, a run that keeps going has them
all. Main statement: without a failed step both runs are the same, and with one the run that stops
fails as the first of them says, after the notices up to it.
-/

namespace Statechart

open Json (Value)

namespace OnFailure

variable {mode : OnFailure} {p : Passage}

/-- A passage without a failure ends no run. -/
theorem not_ends_of_answer (h : p.answer = none) : ¬ mode.ends p = true := by
  intro hends
  obtain ⟨-, text, htext⟩ := ends_iff.mp hends
  rw [h] at htext
  cases htext

/-- Among some passages nobody fails, or there is a first failure. -/
theorem content_or_exists_first (ps : List Passage) :
    (∀ p ∈ ps, p.answer = none) ∨
      ∃ front p text back, ps = front ++ p :: back ∧ (∀ q ∈ front, q.answer = none) ∧
        p.answer = some text := by
  cases hfirst : ps.find? fun p => p.answer.isSome with
  | none =>
    refine .inl fun p hp => ?_
    have hnone := List.find?_eq_none.mp hfirst p hp
    exact Option.not_isSome_iff_eq_none.mp hnone
  | some p =>
    obtain ⟨hp, front, back, hsplit, hfront⟩ := List.find?_eq_some_iff_append.mp hfirst
    obtain ⟨text, htext⟩ := Option.isSome_iff_exists.mp hp
    refine .inr ⟨front, p, text, back, hsplit, fun q hq => ?_, htext⟩
    simpa using hfront q hq

/-- A run that stops has nothing behind the first failure. -/
theorem reached_stop {front : List Passage} {text : String} (hfront : ∀ q ∈ front, q.answer = none)
    (hp : p.answer = some text) (back : List Passage) :
    stop.reached (front ++ p :: back) = front ++ [p] := by
  have hends : stop.ends p = true := ends_iff.mpr ⟨rfl, text, hp⟩
  rw [reached_append fun q hq => not_ends_of_answer (hfront q hq), reached_cons_of_ends hends]

/-- A run that stops fails with the first failure. -/
theorem outcome_stop {m : Machine} {front : List Passage} {text : String}
    (hfront : ∀ q ∈ front, q.answer = none) (hp : p.answer = some text) (back : List Passage) :
    stop.outcome m (front ++ p :: back) = .error (.observer text) := by
  induction front with
  | nil => exact outcome_cons_of_ends (ends_iff.mpr ⟨rfl, text, hp⟩) back hp
  | cons q front ih =>
    obtain ⟨hq, hrest⟩ := List.forall_mem_cons.mp hfront
    rw [List.cons_append, outcome_cons_of_not_ends (not_ends_of_answer hq), ih hrest]
    rfl

end OnFailure

namespace Machine

variable {m : Machine} {s : Script} {o : Observer Value} {node : Nat}

/-- The failed steps of a report are those of the passages that were answered with a failure. -/
theorem errorCount_eq_zero_iff :
    (m.reportOf s node ((m.course s o node).map m.stepOf)).errorCount = 0 ↔
      ∀ p ∈ m.course s o node, p.answer = none := by
  simp [Report.errorCount, reportOf, List.countP_eq_zero, stepOf]

/-- A step is the first of a report that failed; `front` are the steps before it. -/
structure FirstFailure (report : Report) (front : List ReportStep) (step : ReportStep) : Prop where
  split : front ++ [step] <+: report.steps
  before : ∀ t ∈ front, t.error = none
  failed : step.error.isSome = true

/-- A run has stopped where another one, which kept going, has its first failed step. -/
structure StopsAt (stop keep : Run) (o : Observer Value) (front : List ReportStep)
    (step : ReportStep) (text : String) : Prop where
  result : stop.result = .error (.observer text)
  error : step.error = some (InterpreterError.observer text).message
  errorCode : step.errorCode = some (InterpreterError.observer text).code
  calls : stop.calls <+: keep.calls
  /-- There is a notice of the start, of each step in front, and of the failed step. -/
  length_calls : stop.calls.length = front.length + 2
  answer : o.answer? stop.calls (front.length + 1) = some text
  before : ∀ k ≤ front.length, o.answer? stop.calls k = none

section FirstFailed

variable {front back : List Passage} {p : Passage} {text : String}

/-- The answers to the notices of a run are those of its passages. -/
theorem answer?_notices_append (h : m.course s o node = front ++ p :: back) :
    o.answer? (m.notices s o node) (front.length + 1) = p.answer := by
  have hp : (m.course s o node)[front.length]? = some p := by
    rw [h, List.getElem?_append_right (Nat.le_refl _), Nat.sub_self]
    rfl
  exact (passesAt_of_getElem? hp).answer.symm

theorem answer?_notices_of_le (h : m.course s o node = front ++ back)
    (hanswer : o [] (m.opening s node) = none) (hfront : ∀ q ∈ front, q.answer = none) {k : Nat}
    (hk : k ≤ front.length) : o.answer? (m.notices s o node) k = none := by
  cases k with
  | zero => exact hanswer
  | succ k =>
    have hlt : k < front.length := hk
    have hq : (m.course s o node)[k]? = some front[k] := by
      rw [h, List.getElem?_append_left hlt, List.getElem?_eq_getElem hlt]
    rw [← (passesAt_of_getElem? hq).answer]
    exact hfront _ (List.getElem_mem hlt)

/-- The steps of the passages in front of the first failure, and its own step. -/
theorem firstFailure_of_split (hsplit : m.course s o node = front ++ p :: back)
    (hfront : ∀ q ∈ front, q.answer = none) (hp : p.answer = some text) :
    FirstFailure (m.reportOf s node ((m.course s o node).map m.stepOf)) (front.map m.stepOf)
      (m.stepOf p) := by
  refine ⟨⟨back.map m.stepOf, ?_⟩, ?_, ?_⟩
  · show _ = (m.course s o node).map m.stepOf
    rw [hsplit, List.append_assoc, List.singleton_append, List.map_append, List.map_cons]
  · intro t ht
    obtain ⟨q, hq, rfl⟩ := List.mem_map.mp ht
    rw [stepOf, hfront q hq]
    rfl
  · rw [stepOf, hp]
    rfl

/-- A run that stops has the notices up to the first failure, and fails with it. -/
theorem run_stop_of_split (hnode : m.startNode? s = some node)
    (hanswer : o [] (m.opening s node) = none) (hsplit : m.course s o node = front ++ p :: back)
    (hfront : ∀ q ∈ front, q.answer = none) (hp : p.answer = some text) :
    m.run .stop s o =
      ⟨m.opening s node :: (front ++ [p]).map Passage.notice, .error (.observer text)⟩ := by
  rw [run_of_opening hnode hanswer, hsplit, OnFailure.reached_stop hfront hp,
    OnFailure.outcome_stop hfront hp]
  rfl

theorem notices_of_split (hsplit : m.course s o node = front ++ p :: back) :
    m.notices s o node =
      (m.opening s node :: (front ++ [p]).map Passage.notice) ++ back.map Passage.notice := by
  rw [notices, hsplit, List.cons_append, ← List.map_append, List.append_assoc,
    List.singleton_append]

/-- A script that starts and whose observer fails: the run that stops does so at the first failed
step of the run that keeps going. -/
theorem stopsAt_of_split (hnode : m.startNode? s = some node)
    (hanswer : o [] (m.opening s node) = none) (hsplit : m.course s o node = front ++ p :: back)
    (hfront : ∀ q ∈ front, q.answer = none) (hp : p.answer = some text) :
    StopsAt (m.run .stop s o) (m.run .keepGoing s o) o (front.map m.stepOf) (m.stepOf p) text := by
  have hlength :
      (m.opening s node :: (front ++ [p]).map Passage.notice).length = front.length + 2 := by
    rw [List.length_cons, List.length_map, List.length_append, List.length_singleton]
  -- what is answered to the notices that both runs have is the same
  have hsame : ∀ k < front.length + 2,
      o.answer? (m.opening s node :: (front ++ [p]).map Passage.notice) k =
        o.answer? (m.notices s o node) k := by
    intro k hk
    rw [notices_of_split hsplit, Observer.answer?_append (hlength ▸ hk)]
  rw [run_stop_of_split hnode hanswer hsplit hfront hp, run_keepGoing hnode hanswer]
  constructor
  case result => rfl
  case error =>
    rw [stepOf, hp]
    rfl
  case errorCode =>
    rw [stepOf, hp]
    rfl
  case calls => exact ⟨_, (notices_of_split hsplit).symm⟩
  case length_calls => rw [List.length_map, hlength]
  case answer =>
    rw [List.length_map, hsame _ (Nat.lt_succ_self _), answer?_notices_append hsplit, hp]
  case before =>
    intro k hk
    rw [List.length_map] at hk
    have hlt : k < front.length + 2 := by omega
    rw [hsame k hlt, answer?_notices_of_le hsplit hanswer hfront hk]

end FirstFailed

/-- With an observer that never fails it does not matter what failures would do to a run. -/
theorem run_of_content (hcontent : ∀ seen n, o seen n = none) (mode mode' : OnFailure) :
    m.run mode s o = m.run mode' s o := by
  rcases m.startFails_or_starts s o with ⟨e, hfails⟩ | ⟨node, hnode, hanswer⟩
  · obtain ⟨calls, hrun⟩ := run_of_startFails hfails
    rw [hrun, hrun]
  · have hnone : ∀ p ∈ m.course s o node, p.answer = none := by
      intro p hp
      obtain ⟨k, hk⟩ := List.mem_iff_getElem?.mp hp
      have hpasses := passesAt_of_getElem? hk
      rw [hpasses.answer, Observer.answer?, hpasses.given]
      exact hcontent _ _
    have hends : ∀ mode : OnFailure, ∀ p ∈ m.course s o node, ¬ mode.ends p = true :=
      fun mode p hp => OnFailure.not_ends_of_answer (hnone p hp)
    rw [run_of_not_ends hnode hanswer (hends mode), run_of_not_ends hnode hanswer (hends mode')]

/-- What failing events would do to it makes no difference to a run that nobody observes. -/
theorem run_silent_congr (m : Machine) (s : Script) (mode mode' : OnFailure) :
    m.run mode s .silent = m.run mode' s .silent :=
  run_of_content (fun _ _ => rfl) mode mode'

/-- Without an observer that fails, a script that starts has a report, and all its notices are given. -/
theorem run_silent (hnode : m.startNode? s = some node) (mode : OnFailure) :
    m.run mode s .silent =
      ⟨m.notices s .silent node,
        .ok (m.reportOf s node ((m.course s .silent node).map m.stepOf))⟩ := by
  rw [run_silent_congr m s mode .keepGoing]
  exact run_keepGoing hnode rfl

/-- A run that nobody observes fails only if its script names no state to start in. -/
theorem result_silent_eq_error_iff {mode : OnFailure} {e : InterpreterError} :
    (m.run mode s .silent).result = .error e ↔
      ∃ path, s.startAt = some path ∧ m.lookup path = none ∧ e = .unknownState path := by
  rw [run_silent_congr m s mode .keepGoing, result_keepGoing_eq_error_iff]
  constructor
  · intro h
    cases h with
    | unknown hpath hnone => exact ⟨_, hpath, hnone, rfl⟩
    | observer hnode htext => cases htext
  · rintro ⟨path, hpath, hnone, rfl⟩
    exact .unknown hpath hnone

/-- A script that cannot be started fails alike in both modes. Otherwise the run that keeps going has
a report. If no step of it failed, the run that stops at failures is the same; if one did, that run
fails with what the first failed step says, and its observer was given the notices up to the one it
failed on. -/
theorem stop_agrees_with_keepGoing (m : Machine) (s : Script) (o : Observer Value) :
    let stop := m.run .stop s o
    let keep := m.run .keepGoing s o
    (∀ e, m.StartFails s o e → stop.result = .error e ∧ keep.result = .error e ∧
        stop.calls = keep.calls) ∧
      (∀ e, keep.result = .error e → m.StartFails s o e) ∧
      ∀ report, keep.result = .ok report →
        ((∃ report', stop.result = .ok report') ↔ report.errorCount = 0) ∧
        (report.errorCount = 0 → stop.result = .ok report ∧ stop.calls = keep.calls) ∧
        (0 < report.errorCount → ∃ front step text,
          FirstFailure report front step ∧ StopsAt stop keep o front step text) := by
  intro stop keep
  refine ⟨?_, fun e => result_keepGoing_eq_error_iff.mp, ?_⟩
  · intro e hfails
    obtain ⟨calls, hrun⟩ := run_of_startFails hfails
    rw [show stop = _ from hrun .stop, show keep = _ from hrun .keepGoing]
    exact ⟨rfl, rfl, rfl⟩
  intro report hreport
  obtain ⟨node, hnode, hanswer, rfl, hkeep⟩ := run_of_result hreport
  rw [Nat.pos_iff_ne_zero, ne_eq, errorCount_eq_zero_iff]
  -- both runs have the same passages, so that they are compared at the first failure among them
  rcases OnFailure.content_or_exists_first (m.course s o node) with
    hcontent | ⟨front, p, text, back, hsplit, hfront, hp⟩
  · have hstop : stop = _ := run_of_not_ends hnode hanswer
      fun p hp => OnFailure.not_ends_of_answer (hcontent p hp)
    rw [show keep = _ from hkeep, hstop]
    exact ⟨⟨fun _ => hcontent, fun _ => ⟨_, rfl⟩⟩, fun _ => ⟨rfl, rfl⟩,
      fun hfailed => absurd hcontent hfailed⟩
  · have hfailed : ¬ ∀ q ∈ m.course s o node, q.answer = none := by
      intro hcontent
      have hnone : p.answer = none := hcontent p (hsplit ▸ List.mem_append_right _ List.mem_cons_self)
      rw [hp] at hnone
      cases hnone
    have hfirst := firstFailure_of_split hsplit hfront hp
    have hstops := stopsAt_of_split hnode hanswer hsplit hfront hp
    refine ⟨⟨?_, fun hcontent => absurd hcontent hfailed⟩, fun hcontent => absurd hcontent hfailed,
      fun _ => ⟨_, _, text, hfirst, hstops⟩⟩
    rintro ⟨report', hreport'⟩
    rw [show stop.result = _ from hstops.result] at hreport'
    cases hreport'

/-- An observer that fails on the second of three events. -/
theorem stop_agrees_with_keepGoing_order :
    let s : Script := Script.ofTypes ["PAY", "SHIP", "DELIVER"]
    let o : Observer Value := fun seen _ => if seen.length = 2 then some "down" else none
    let stop := Machine.order.run .stop s o
    let keep := Machine.order.run .keepGoing s o
    ∃ report, keep.result = .ok report ∧ report.errorCount = 1 ∧
      ∃ front step text, FirstFailure report front step ∧ StopsAt stop keep o front step text := by
  intro s o stop keep
  obtain ⟨-, -, h⟩ := stop_agrees_with_keepGoing order s o
  obtain ⟨report, hreport⟩ : ∃ report, keep.result = .ok report := ⟨_, rfl⟩
  have hone : report.errorCount = 1 := by
    cases hreport
    rfl
  exact ⟨report, hreport, hone, (h report hreport).2.2 (hone ▸ Nat.one_pos)⟩

end Machine

end Statechart
