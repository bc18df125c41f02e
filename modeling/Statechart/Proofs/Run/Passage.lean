import Statechart.Run
import Statechart.Proofs.Interpreter.Call
import Statechart.Proofs.Interpreter.Refinement
/-!
What a run of a script is made of. While its interpreter runs, every event passes in the same way: it
arrives on the active path, the machine says where it leads, the observer is told and answers in the
light of what it was told before. The passages of a script depend on the machine, the observer and
the events alone; what a failing event does to a run only decides how many of them take place. Main
statement: the notices and the result of a run, in both modes, read off its passages.
-/

namespace Statechart

open Json (Value)

variable {C : Type}

/-! ## The answers of an observer -/

/-- The answer of an observer to the `k`-th of the notices it is given. -/
def Observer.answer? (o : Observer C) (calls : List (Notice C)) (k : Nat) : Option String :=
  calls[k]?.bind fun n => o (calls.take k).reverse n

/-- What comes behind a notice has no part in the answer to it. -/
theorem Observer.answer?_append {o : Observer C} {calls : List (Notice C)} {k : Nat}
    (h : k < calls.length) (later : List (Notice C)) :
    o.answer? (calls ++ later) k = o.answer? calls k := by
  rw [answer?, answer?, List.getElem?_append_left h,
    List.take_append_of_le_length (Nat.le_of_lt h)]

/-- The result of a call whose observer answers: the failure it tells, or `a`. -/
def verdict {α : Type} (answer : Option String) (a : α) : Except InterpreterError α :=
  match answer with
  | some text => .error (.observer text)
  | none => .ok a

theorem map_verdict {α β : Type} (f : α → β) (answer : Option String) (a : α) :
    (verdict answer a).map f = verdict answer (f a) := by
  cases answer <;> rfl

/-- A round among one observer reaches it. -/
theorem tell_singleton (n : Notice C) (id : Nat) (o : Observer C) (seen : List (Notice C)) :
    tell n [⟨id, o, seen⟩] = ⟨[⟨id, o, n :: seen⟩], [id], o seen n⟩ := by
  cases h : o seen n with
  | some text => exact tell_of_failing h []
  | none => exact tell_of_content h []

/-! ## Passages -/

/-- How an event passed: the active path on which it arrived, the notice given of it, and the answer
to that notice. -/
structure Passage where
  arrival : ActivePath
  event : Event
  notice : Notice Value
  answer : Option String

namespace Machine

/-- The active path after some events, by their types. -/
def pathAfter (m : Machine) (a : ActivePath) (events : List Event) : ActivePath :=
  (events.map Event.type).foldl (fun a event => (m.transition a event).active) a

/-- The notice of an event that arrives on an active path. -/
def noticeOf (m : Machine) (context : C) (a : ActivePath) (event : Event) : Notice C :=
  ⟨⟨m.pathOf (m.transition a event.type).active, context⟩, some event⟩

/-- How an event passes that arrives on an active path, with an observer that has been given some
notices, newest first. -/
def passageOf (m : Machine) (o : Observer Value) (context : Value) (a : ActivePath)
    (seen : List (Notice Value)) (event : Event) : Passage :=
  ⟨a, event, m.noticeOf context a event, o seen (m.noticeOf context a event)⟩

/-- How some events pass, one after the other. -/
def passages (m : Machine) (o : Observer Value) (context : Value) :
    ActivePath → List (Notice Value) → List Event → List Passage
  | _, _, [] => []
  | a, seen, event :: rest =>
    m.passageOf o context a seen event ::
      passages m o context (m.transition a event.type).active (m.noticeOf context a event :: seen)
        rest

/-- What a report says of a passage. -/
def stepOf (m : Machine) (p : Passage) : ReportStep :=
  let r := m.transition p.arrival p.event.type
  { event := p.event
    state := m.pathOf r.active
    value := (m.pathOf r.active).value
    handled := p.answer.isNone && r.isHandled
    error := p.answer.map fun text => (InterpreterError.observer text).message
    errorCode := p.answer.map fun text => (InterpreterError.observer text).code }

/-- The notices of some events that arrive one after the other, from an active path on. -/
def noticesAlong (m : Machine) (context : C) : ActivePath → List Event → List (Notice C)
  | _, [] => []
  | a, event :: rest =>
    m.noticeOf context a event :: noticesAlong m context (m.transition a event.type).active rest

/-- What is told of events depends neither on who is told nor on what else was told. -/
theorem map_notice_passages (m : Machine) (o : Observer Value) (context : Value) (a : ActivePath)
    (seen : List (Notice Value)) (events : List Event) :
    (m.passages o context a seen events).map Passage.notice = m.noticesAlong context a events := by
  induction events generalizing a seen with
  | nil => rfl
  | cons event rest ih =>
    rw [passages, List.map_cons, ih]
    rfl

theorem pathAfter_append (m : Machine) (a : ActivePath) (front back : List Event) :
    m.pathAfter a (front ++ back) = m.pathAfter (m.pathAfter a front) back := by
  simp [pathAfter]

theorem noticesAlong_append (m : Machine) (context : C) (a : ActivePath)
    (front back : List Event) :
    m.noticesAlong context a (front ++ back) =
      m.noticesAlong context a front ++ m.noticesAlong context (m.pathAfter a front) back := by
  induction front generalizing a with
  | nil => rfl
  | cons event rest ih =>
    rw [List.cons_append, noticesAlong, noticesAlong, ih]
    rfl

/-- Every event passes, in order. -/
theorem map_event_passages (m : Machine) (o : Observer Value) (context : Value) (a : ActivePath)
    (seen : List (Notice Value)) (events : List Event) :
    (m.passages o context a seen events).map Passage.event = events := by
  induction events generalizing a seen with
  | nil => rfl
  | cons event rest ih =>
    rw [passages, List.map_cons, ih]
    rfl

theorem length_passages (m : Machine) (o : Observer Value) (context : Value) (a : ActivePath)
    (seen : List (Notice Value)) (events : List Event) :
    (m.passages o context a seen events).length = events.length := by
  have hevents := m.map_event_passages o context a seen events
  simpa using congrArg List.length hevents

/-- The `k`-th passage: its event arrives where the events before it have led, and the observer has
been given the notices before it. -/
theorem getElem?_passages (m : Machine) (o : Observer Value) (context : Value) (a : ActivePath)
    (seen : List (Notice Value)) (events : List Event) (k : Nat) :
    (m.passages o context a seen events)[k]? =
      events[k]?.map (m.passageOf o context (m.pathAfter a (events.take k))
        ((((m.passages o context a seen events).take k).map Passage.notice).reverse ++ seen)) := by
  -- the path and the notices are both of what came before, so that they grow along the events
  induction events generalizing a seen k with
  | nil => rfl
  | cons event rest ih =>
    cases k with
    | zero => rfl
    | succ k =>
      rw [passages, List.getElem?_cons_succ, List.getElem?_cons_succ, ih]
      simp only [pathAfter, List.take_succ_cons, List.map_cons, List.foldl_cons,
        List.reverse_cons, List.append_assoc, List.singleton_append]
      rfl

end Machine

/-! ## What a failure does -/

namespace OnFailure

/-- A passage ends the run: the observer has failed, and the run stops at failures. -/
def ends : OnFailure → Passage → Bool
  | stop, p => p.answer.isSome
  | keepGoing, _ => false

/-- The passages that take place: those up to and including the first that ends the run. -/
def reached (mode : OnFailure) : List Passage → List Passage
  | [] => []
  | p :: rest => p :: if mode.ends p then [] else reached mode rest

/-- What comes of the passages: the failure of the one that ends the run, or the steps of all. -/
def outcome (mode : OnFailure) (m : Machine) (ps : List Passage) :
    Except InterpreterError (List ReportStep) :=
  verdict ((ps.find? mode.ends).bind Passage.answer) (ps.map m.stepOf)

variable {mode : OnFailure} {m : Machine} {p : Passage}

theorem ends_iff : mode.ends p = true ↔ mode = .stop ∧ ∃ text, p.answer = some text := by
  cases mode <;> simp [ends, Option.isSome_iff_exists]

theorem reached_cons_of_ends (h : mode.ends p = true) (rest : List Passage) :
    mode.reached (p :: rest) = [p] := by
  rw [reached, if_pos h]

theorem reached_cons_of_not_ends (h : ¬ mode.ends p = true) (rest : List Passage) :
    mode.reached (p :: rest) = p :: mode.reached rest := by
  rw [reached, if_neg h]

theorem outcome_cons_of_ends (h : mode.ends p = true) (rest : List Passage) {text : String}
    (htext : p.answer = some text) : mode.outcome m (p :: rest) = .error (.observer text) := by
  rw [outcome, List.find?_cons_of_pos h, Option.bind_some, htext]
  rfl

theorem outcome_cons_of_not_ends (h : ¬ mode.ends p = true) (rest : List Passage) :
    mode.outcome m (p :: rest) = (mode.outcome m rest).map (m.stepOf p :: ·) := by
  rw [outcome, outcome, List.find?_cons_of_neg h, map_verdict, List.map_cons]

/-- Passages that do not end the run take place, and so does what comes behind them. -/
theorem reached_append {front : List Passage} (h : ∀ p ∈ front, ¬ mode.ends p = true)
    (rest : List Passage) : mode.reached (front ++ rest) = front ++ mode.reached rest := by
  induction front with
  | nil => rfl
  | cons p front ih =>
    obtain ⟨hp, hfront⟩ := List.forall_mem_cons.mp h
    rw [List.cons_append, reached_cons_of_not_ends hp, ih hfront, List.cons_append]

theorem reached_of_not_ends {ps : List Passage} (h : ∀ p ∈ ps, ¬ mode.ends p = true) :
    mode.reached ps = ps := by
  have happend := reached_append h []
  rwa [reached, List.append_nil] at happend

theorem outcome_of_not_ends {ps : List Passage} (h : ∀ p ∈ ps, ¬ mode.ends p = true) :
    mode.outcome m ps = .ok (ps.map m.stepOf) := by
  rw [outcome, List.find?_eq_none.mpr h]
  rfl

/-- A run comes to steps only if nothing ends it. -/
theorem not_ends_of_outcome {ps : List Passage} {steps : List ReportStep}
    (h : mode.outcome m ps = .ok steps) : ∀ p ∈ ps, ¬ mode.ends p = true := by
  cases hfirst : ps.find? mode.ends with
  | none => exact List.find?_eq_none.mp hfirst
  | some p =>
    obtain ⟨-, text, htext⟩ := ends_iff.mp (List.find?_some hfirst)
    rw [outcome, hfirst, Option.bind_some, htext] at h
    cases h

theorem not_ends_keepGoing (p : Passage) : ¬ keepGoing.ends p = true := Bool.false_ne_true

end OnFailure

namespace Interpreter

variable {i : Interpreter Value} {m : Machine} {o : Observer Value} {seen : List (Notice Value)}

/-- A running interpreter over a machine whose only observer has been given some notices, newest
first. -/
structure Watched (i : Interpreter Value) (m : Machine) (o : Observer Value)
    (seen : List (Notice Value)) : Prop where
  machine : i.machine = m
  status : i.status = .running
  observers : ∃ id, i.observers = [⟨id, o, seen⟩]

/-- An announcement to one observer reaches it and has its answer for a result. -/
theorem announce_of_singleton {α : Type} {id : Nat} (h : i.observers = [⟨id, o, seen⟩])
    (event : Option Event) (a : α) :
    let n : Notice Value := ⟨i.snapshot, event⟩
    i.announce event a =
      ⟨{ i with observers := [⟨id, o, n :: seen⟩] }, [(id, n)], verdict (o seen n) a⟩ := by
  intro n
  rw [announce, h, tell_singleton]
  rfl

/-- An event passes: the interpreter is watched on, one notice is given, and the result is the
answer to it. -/
theorem Watched.send (h : i.Watched m o seen) (event : Event) :
    let p := m.passageOf o i.context i.active seen event
    let r := i.send event
    (r.interpreter.Watched m o (p.notice :: seen) ∧ r.interpreter.context = i.context ∧
        r.interpreter.active = (m.transition i.active event.type).active) ∧
      r.calls.map Prod.snd = [p.notice] ∧ r.result = verdict p.answer (m.step i.active event) := by
  obtain ⟨rfl, hstatus, id, hobservers⟩ := h
  intro p r
  let j : Interpreter Value :=
    { i with active := (i.machine.transition i.active event.type).active }
  have hj : j.observers = [⟨id, o, seen⟩] := hobservers
  have hr : r = ⟨{ j with observers := [⟨id, o, p.notice :: seen⟩] },
      [(id, p.notice)], verdict p.answer (i.machine.step i.active event)⟩ :=
    (send_of_isRunning (isRunning_iff.mpr hstatus) event).trans
      (announce_of_singleton hj (some event) (i.machine.step i.active event))
  rw [hr]
  exact ⟨⟨⟨rfl, hstatus, id, rfl⟩, rfl, rfl⟩, rfl, rfl⟩

/-- The step of an event that passed is that of its passage, on both ways to make one. -/
theorem reportStep_verdict {j : Interpreter Value} (p : Passage)
    (hpath : j.snapshot.path = m.pathOf (m.transition p.arrival p.event.type).active) :
    reportStep j p.event (verdict p.answer (m.step p.arrival p.event)) = m.stepOf p := by
  obtain ⟨arrival, event, n, answer⟩ := p
  cases answer with
  | none => rfl
  | some text =>
    show (⟨event, j.snapshot.path, j.snapshot.path.value, false, _, _⟩ : ReportStep) = _
    rw [hpath]
    rfl

/-- An event that fails ends a run that stops at failures. -/
theorem sendAll_stop_of_error {event : Event} {e : InterpreterError}
    (h : (i.send event).result = .error e) (rest : List Event) :
    i.sendAll .stop (event :: rest) =
      ⟨(i.send event).interpreter, (i.send event).calls.map Prod.snd, .error e⟩ := by
  simp only [sendAll, h]

/-- After any other event a run goes on. -/
theorem sendAll_cons_of_goesOn {mode : OnFailure} {event : Event}
    (h : ∀ e, (i.send event).result = .error e → mode = .keepGoing) (rest : List Event) :
    i.sendAll mode (event :: rest) =
      ⟨((i.send event).interpreter.sendAll mode rest).interpreter,
        (i.send event).calls.map Prod.snd ++ ((i.send event).interpreter.sendAll mode rest).calls,
        ((i.send event).interpreter.sendAll mode rest).result.map
          (reportStep (i.send event).interpreter event (i.send event).result :: ·)⟩ := by
  cases hresult : (i.send event).result with
  | ok s => cases mode <;> simp only [sendAll, hresult]
  | error e =>
    rw [h e hresult]
    simp only [sendAll, hresult]

/-- Only a run that keeps going has a failure that does not end it. -/
theorem goesOn_of_not_ends {mode : OnFailure} {p : Passage} {a : ActivePath} {event : Event}
    (hresult : (i.send event).result = verdict p.answer (m.step a event))
    (hends : ¬ mode.ends p = true) {e : InterpreterError}
    (he : (i.send event).result = .error e) : mode = .keepGoing := by
  cases hanswer : p.answer with
  | none =>
    rw [hresult, hanswer] at he
    cases he
  | some text =>
    cases mode with
    | stop => exact absurd (OnFailure.ends_iff.mpr ⟨rfl, text, hanswer⟩) hends
    | keepGoing => rfl

/-- The events of a script, sent to a watched interpreter: the notices and the result are those of
their passages, and as long as nothing ends the run the interpreter stays as it is but for its
state. -/
theorem Watched.sendAll (h : i.Watched m o seen) (mode : OnFailure) (events : List Event) :
    let ps := m.passages o i.context i.active seen events
    let p := i.sendAll mode events
    p.calls = (mode.reached ps).map Passage.notice ∧ p.result = mode.outcome m ps ∧
      ∀ steps, p.result = .ok steps →
        p.interpreter.status = .running ∧ p.interpreter.context = i.context := by
  -- the interpreter that an event leaves is watched again, with one notice more
  induction events generalizing i seen with
  | nil =>
    refine ⟨?_, ?_, fun _ _ => ⟨h.status, rfl⟩⟩ <;> cases mode <;> rfl
  | cons event rest ih =>
    dsimp only [Machine.passages]
    obtain ⟨⟨hwatched, hcontext, hactive⟩, hcalls, hresult⟩ := h.send event
    by_cases hends : mode.ends (m.passageOf o i.context i.active seen event) = true
    · -- the passage is the last one, and the failure is what comes of the run
      obtain ⟨rfl, text, htext⟩ := OnFailure.ends_iff.mp hends
      have hfails : (i.send event).result = .error (.observer text) := by
        rw [hresult, htext]
        rfl
      rw [sendAll_stop_of_error hfails, OnFailure.reached_cons_of_ends hends,
        OnFailure.outcome_cons_of_ends hends _ htext]
      exact ⟨hcalls, rfl, nofun⟩
    · -- a success and a recorded failure differ in how their step is made, not in what it says
      have hstep : reportStep (i.send event).interpreter event (i.send event).result =
          m.stepOf (m.passageOf o i.context i.active seen event) := by
        rw [hresult]
        refine reportStep_verdict (m.passageOf o i.context i.active seen event) ?_
        rw [snapshot, hwatched.machine, hactive]
        rfl
      have hrest := ih hwatched
      rw [hcontext, hactive] at hrest
      obtain ⟨hrestCalls, hrestResult, hrestRunning⟩ := hrest
      rw [sendAll_cons_of_goesOn fun e => goesOn_of_not_ends hresult hends,
        OnFailure.reached_cons_of_not_ends hends, OnFailure.outcome_cons_of_not_ends hends]
      refine ⟨?_, ?_, ?_⟩
      · show _ ++ _ = _
        rw [hcalls, hrestCalls, List.map_cons]
        rfl
      · show Except.map _ _ = _
        rw [hstep, hrestResult]
        rfl
      · intro steps hsteps
        cases hmade : ((i.send event).interpreter.sendAll mode rest).result with
        | ok made => exact hrestRunning made hmade
        | error e =>
          rw [hmade] at hsteps
          cases hsteps

end Interpreter

/-! ## The start -/

namespace Machine

variable {m : Machine} {s : Script} {o : Observer Value} {node : Nat} {mode : OnFailure}

/-- The position at which a script starts: the root, or the state that it names. -/
def startNode? (m : Machine) (s : Script) : Option Nat :=
  match s.startAt with
  | some path => m.lookup path
  | none => some root

/-- The context of a run: that of the script, else the one that the definition declares, else
null. -/
def runContext (m : Machine) (s : Script) : Value := s.context.getD (m.context.getD .null)

/-- The notice of the start. -/
def opening (m : Machine) (s : Script) (node : Nat) : Notice Value :=
  ⟨⟨m.pathOf (m.enter node), m.runContext s⟩, none⟩

/-- Why a script cannot be started: it names no state, or the observer fails at once. -/
inductive StartFails (m : Machine) (s : Script) (o : Observer Value) : InterpreterError → Prop
  | unknown {path : String} (hpath : s.startAt = some path) (hnone : m.lookup path = none) :
      StartFails m s o (.unknownState path)
  | observer {node : Nat} {text : String} (hnode : m.startNode? s = some node)
      (htext : o [] (m.opening s node) = some text) : StartFails m s o (.observer text)

/-- The passages of the events of a script that starts at a position. -/
def course (m : Machine) (s : Script) (o : Observer Value) (node : Nat) : List Passage :=
  m.passages o (m.runContext s) (m.enter node) [m.opening s node] s.events

/-- The report of a run with given steps. -/
def reportOf (m : Machine) (s : Script) (node : Nat) (steps : List ReportStep) : Report :=
  { machine := m.id
    checksum := m.checksum
    initial := m.pathOf (m.enter node)
    initialValue := (m.pathOf (m.enter node)).value
    steps
    context := m.runContext s
    status := .stopped }

theorem startNode?_eq_none_iff :
    m.startNode? s = none ↔ ∃ path, s.startAt = some path ∧ m.lookup path = none := by
  unfold startNode?
  cases s.startAt <;> simp

theorem startScript_of_startNode? {i : Interpreter Value} (hidle : i.status = .idle)
    (h : i.machine.startNode? s = some node) :
    startScript s i = (i.entered node s.context).announce none () := by
  have hfault : i.startFault? = none := Interpreter.startFault?_eq_none_iff.mpr hidle
  unfold startNode? at h
  unfold startScript
  cases hpath : s.startAt with
  | none =>
    rw [hpath] at h
    cases h
    simp only [Interpreter.start, hfault]
  | some path =>
    rw [hpath] at h
    simp only [Interpreter.startAt, hfault, show i.machine.lookup path = some node from h]

/-! ## Whole runs -/

/-- A script that names no state is not started. -/
theorem run_of_lookup_eq_none {path : String} (hpath : s.startAt = some path)
    (hnone : m.lookup path = none) : m.run mode s o = ⟨[], .error (.unknownState path)⟩ := by
  have hstarted : startScript s ((Interpreter.ofMachine m).register o).1 =
      ((Interpreter.ofMachine m).register o).1.refuse (.unknownState path) := by
    rw [startScript, hpath]
    show Interpreter.startAt _ path s.context = _
    rw [Interpreter.startAt, show Interpreter.startFault? _ = none from rfl,
      show Machine.lookup (Interpreter.machine _) path = none from hnone]
  unfold run
  rw [hstarted]
  rfl

/-- What the start gives: the observer has been told, and its answer is the result. -/
theorem exists_watched_of_startNode? (o : Observer Value) (h : m.startNode? s = some node) :
    ∃ i : Interpreter Value, i.Watched m o [m.opening s node] ∧ i.active = m.enter node ∧
      i.context = m.runContext s ∧
      startScript s ((Interpreter.ofMachine m).register o).1 =
        ⟨i, [(0, m.opening s node)], verdict (o [] (m.opening s node)) ()⟩ := by
  have hidle : ((Interpreter.ofMachine m).register o).1.status = .idle := rfl
  have hobservers :
      (((Interpreter.ofMachine m).register o).1.entered node s.context).observers =
        [⟨0, o, []⟩] := rfl
  rw [startScript_of_startNode? hidle h, Interpreter.announce_of_singleton hobservers]
  exact ⟨_, ⟨rfl, rfl, 0, rfl⟩, rfl, rfl, rfl⟩

/-- A script whose observer fails at once is not run. -/
theorem run_of_opening_fails {text : String} (h : m.startNode? s = some node)
    (htext : o [] (m.opening s node) = some text) :
    m.run mode s o = ⟨[m.opening s node], .error (.observer text)⟩ := by
  obtain ⟨i, -, -, -, hstarted⟩ := exists_watched_of_startNode? o h
  unfold run
  rw [hstarted, htext]
  rfl

/-- A script that starts: the notices and the result of its run are read off its passages. -/
theorem run_of_opening (h : m.startNode? s = some node) (hnone : o [] (m.opening s node) = none)
    (mode : OnFailure) :
    m.run mode s o =
      ⟨m.opening s node :: (mode.reached (m.course s o node)).map Passage.notice,
        (mode.outcome m (m.course s o node)).map (m.reportOf s node)⟩ := by
  obtain ⟨i, hwatched, hactive, hcontext, hstarted⟩ := exists_watched_of_startNode? o h
  have hsent := hwatched.sendAll mode s.events
  rw [hactive, hcontext] at hsent
  change _ = (mode.reached (m.course s o node)).map Passage.notice ∧
    _ = mode.outcome m (m.course s o node) ∧ _ at hsent
  obtain ⟨hcalls, hresult, hrunning⟩ := hsent
  unfold run
  rw [hstarted, hnone]
  simp only [verdict, List.map_cons, List.map_nil, List.singleton_append]
  rw [← hcalls, ← hresult]
  cases hmade : (i.sendAll mode s.events).result with
  | error e => rfl
  | ok steps =>
    -- nothing has ended the run, so that the interpreter can be stopped
    obtain ⟨hstatus, hkept⟩ := hrunning steps hmade
    simp only [Interpreter.stop, if_pos (Interpreter.isRunning_iff.mpr hstatus)]
    rw [hkept, Interpreter.snapshot, hwatched.machine, hactive]
    rfl

end Machine

end Statechart
