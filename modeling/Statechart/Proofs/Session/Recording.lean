import Statechart.Proofs.Session.Lines
import Statechart.Proofs.Text.Words
import Statechart.Proofs.Run.FailureMode
import Statechart.Proofs.Machine.Handling
/-!
Scripts that are typed into a session. A line may send any number of events, and other lines may look
at the session in between; neither matters for what the session records. Main statement: a session
that is started as a script says and sends its events records what a run of the script tells its
observer, and stands where the run ends.
-/

namespace Statechart

open Json (Value)

namespace Session

/-! ## Lines that send -/

/-- The line that starts a session, in a given state or in the initial one. -/
def startLine (state : Option String) : String := Text.spaced ("start" :: state.toList)

/-- The line that sends some events. -/
def sendLine (types : List String) : String := Text.spaced ("send" :: types)

/-- A line whose first word names no request that starts, sends, stops, resets or quits. -/
def IsAside (line : String) : Prop :=
  ∀ name arguments, Text.words line = name :: arguments →
    Text.lowercase name ∉ ["start", "send", "s", "stop", "reset", "quit", "exit", "q"]

/-- Lines that send some events, each of them the next ones, with other lines anywhere between. -/
inductive Sends : List String → List String → Prop
  | nil : Sends [] []
  | send {line name : String} {types lines events : List String}
      (hwords : Text.words line = name :: types) (hname : Text.lowercase name ∈ ["send", "s"])
      (hrest : Sends lines events) : Sends (line :: lines) (types ++ events)
  | aside {line : String} {lines events : List String} (h : IsAside line)
      (hrest : Sends lines events) : Sends (line :: lines) events

variable {diag : Diagnostics}

/-- A line that does not send leaves a session as it is. -/
theorem enter_aside {line : String} (h : IsAside line) (s : Session) :
    (s.enter diag line).1 = s := by
  refine s.fst_enter_of_notMem fun name arguments hwords hmem => ?_
  exact h name arguments hwords (List.mem_append_left ["quit", "exit", "q"] hmem)

/-- Every way to cut a list of events into lines is a way to send them. -/
theorem sends_map_sendLine {cut : List (List String)} (h : ∀ type ∈ cut.flatten, Text.IsWord type) :
    Sends (cut.map sendLine) cut.flatten := by
  induction cut with
  | nil => exact .nil
  | cons types rest ih =>
    rw [List.flatten_cons] at h
    have htypes : ∀ w ∈ "send" :: types, Text.IsWord w := by
      intro w hw
      rcases List.mem_cons.mp hw with rfl | hw
      · decide
      · exact h w (List.mem_append_left _ hw)
    have hname : Text.lowercase "send" ∈ ["send", "s"] := by decide +kernel
    exact .send (Text.words_spaced htypes) hname
      (ih fun type htype => h type (List.mem_append_right _ htype))

/-! ## Sessions that run -/

variable {s : Session} {m : Machine} {context : Value} {a : ActivePath}

/-- The events of some types, without payloads. -/
def eventsOf (types : List String) : List Event := types.map fun type => { type }

@[simp]
theorem map_type_eventsOf (types : List String) : (eventsOf types).map Event.type = types := by
  simp [eventsOf, Function.comp_def]

/-- The interpreter of a session over a machine runs, with a context and on an active path, and its
observer never fails. -/
structure Runs (s : Session) (m : Machine) (context : Value) (a : ActivePath) : Prop where
  watched : ∃ seen, s.interpreter.Watched m .silent seen
  context : s.interpreter.context = context
  active : s.interpreter.active = a

/-- A session that runs takes an event, and records it. -/
theorem Runs.send (h : s.Runs m context a) (type : String) :
    (s.drive (.send { type })).Runs m context (m.transition a type).active ∧
      (s.drive (.send { type })).history = s.history ++ [m.noticeOf context a { type }] ∧
      ∃ step, (s.interpreter.send { type }).result = .ok step := by
  obtain ⟨⟨seen, hwatched⟩, rfl, rfl⟩ := h
  obtain ⟨⟨hnext, hcontext, hactive⟩, hcalls, hresult⟩ := hwatched.send { type }
  refine ⟨⟨⟨_, hnext⟩, hcontext, hactive⟩, ?_, ⟨_, hresult⟩⟩
  exact congrArg (s.history ++ ·) hcalls

/-- A session that runs takes any number of events, and records them in order. -/
theorem Runs.sendAll (h : s.Runs m context a) (types : List String) :
    (s.sendAll types).1.Runs m context (m.pathAfter a (eventsOf types)) ∧
      (s.sendAll types).1.history = s.history ++ m.noticesAlong context a (eventsOf types) := by
  induction types generalizing s a with
  | nil => exact ⟨h, (List.append_nil _).symm⟩
  | cons type rest ih =>
    obtain ⟨hruns, hhistory, step, hstep⟩ := h.send type
    obtain ⟨hrest, hrestHistory⟩ := ih hruns
    have hgoesOn : (s.sendAll (type :: rest)).1 =
        ((s.drive (.send { type })).sendAll rest).1 := by
      simp only [Session.sendAll, hstep]
      rfl
    rw [hgoesOn]
    refine ⟨hrest, ?_⟩
    rw [hrestHistory, hhistory, List.append_assoc]
    rfl

theorem Runs.enter_send (h : s.Runs m context a) {line : String} {types : List String}
    (hline : Request.ofLine? line = some (.send types)) :
    (s.enter diag line).1.Runs m context (m.pathAfter a (eventsOf types)) ∧
      (s.enter diag line).1.history = s.history ++ m.noticesAlong context a (eventsOf types) := by
  have hafter : (s.enter diag line).1 = (s.sendAll types).1 := by
    rw [enter_of_ofLine? hline, execute, fst_sendTypes]
  rw [hafter]
  exact h.sendAll types

/-- However the events of a session that runs are cut into lines, it records them in order. -/
theorem Sends.runs {lines events : List String} (h : Sends lines events)
    (hs : s.Runs m context a) :
    (s.enterAll diag lines).Runs m context (m.pathAfter a (eventsOf events)) ∧
      (s.enterAll diag lines).history = s.history ++ m.noticesAlong context a (eventsOf events) := by
  -- a line that sends moves the session along the events in front; no other line moves it
  induction h generalizing s a with
  | nil => exact ⟨hs, (List.append_nil _).symm⟩
  | @send line name types lines events hwords hname _ ih =>
    obtain ⟨hsent, hhistory⟩ := hs.enter_send (ofLine?_send hwords hname)
    obtain ⟨hrest, hrestHistory⟩ := ih hsent
    have hevents : eventsOf (types ++ events) = eventsOf types ++ eventsOf events := by
      simp [eventsOf]
    rw [enterAll_cons, hevents, Machine.pathAfter_append, Machine.noticesAlong_append]
    refine ⟨hrest, ?_⟩
    rw [hrestHistory, hhistory, List.append_assoc]
  | aside hline _ ih =>
    rw [enterAll_cons, enter_aside hline]
    exact ih hs

/-! ## Sessions that follow a script -/

/-- The script of a session that is started in a given state, or in the initial one, and sends some
events. -/
def scriptOf (startAt : Option String) (types : List String) : Script :=
  { startAt, events := eventsOf types }

/-- A start names its state if the state is a word that does not open a context. -/
theorem ofLine?_startLine {state : Option String}
    (h : ∀ p, state = some p → Text.IsWord p ∧ p.toList.head? ≠ some '\x7b') :
    Request.ofLine? (startLine state) = some (.start state none) := by
  have hname : Text.lowercase "start" = "start" := by decide +kernel
  have hwords : Text.words (startLine state) = "start" :: state.toList := by
    apply Text.words_spaced
    intro w hw
    rcases List.mem_cons.mp hw with rfl | hw
    · decide
    · exact (h w (Option.mem_toList.mp hw)).1
  rw [ofLine?_of_words hwords, hname]
  cases state with
  | none => rfl
  | some p =>
    have hbrace : (p.toList.head? == some '\x7b') = false := by simpa using (h p rfl).2
    show some (Request.startOf [p]) = _
    simp [Request.startOf, Request.contextOf, hbrace]

/-- A new session that is started where a script starts runs there, and has recorded the start. -/
theorem runs_startWith {startAt : Option String} {types : List String} {node : Nat}
    (h : m.startNode? (scriptOf startAt types) = some node) :
    let script := scriptOf startAt types
    ((new m).startWith diag startAt none).1.Runs m (m.runContext script) (m.enter node) ∧
      ((new m).startWith diag startAt none).1.history = [m.opening script node] := by
  intro script
  obtain ⟨i, hwatched, hactive, hcontext, hstarted⟩ :=
    Machine.exists_watched_of_startNode? .silent h
  have hafter : ((new m).startWith diag startAt none).1 =
      (new m).after (Machine.startScript script (interpreterOf m)) := by
    rw [startWith, fst_conclude]
    cases startAt <;> rfl
  rw [hafter, show Machine.startScript script (interpreterOf m) = _ from hstarted]
  exact ⟨⟨⟨_, hwatched⟩, hcontext, hactive⟩, rfl⟩

/-- The history of a session that runs along a script is what a run of it tells its observer. -/
theorem map_noticeLine_notices (m : Machine) (script : Script) (o : Observer Value) (node : Nat) :
    let report := m.reportOf script node ((m.course script o node).map m.stepOf)
    (m.notices script o node).map noticeLine =
      ("(start) -> " ++ report.initial.display) ::
        report.steps.map fun step => step.event.type ++ " -> " ++ step.state.display := by
  intro report
  rw [Machine.notices_eq, List.map_cons, List.map_map]
  rfl

/-- A session that is started as a script says and sends its events, on any lines and with any other
lines in between, does what a run of the script does, whatever failing events would do to the run:
its history tells the initial state and then, event by event in order, the state of the step; it
stands in the final state of the report, with its context. How the events are cut into lines plays no
part, and every way to cut them is one of those considered. -/
theorem session_follows_run (diag : Diagnostics) {d : Definition}
    (hm : Machine.ofDefinition d = .ok m) {startAt : Option String}
    (hstart : ∀ p, startAt = some p → (∀ c ∈ p.toList, Text.isBlank c = false) ∧
      p.toList.head? ≠ some '\x7b' ∧ (m.lookup p).isSome = true)
    {types : List String} (htypes : ∀ type ∈ types, Text.IsWord type) (mode : OnFailure) :
    ∃ report, (m.run mode (scriptOf startAt types) .silent).result = .ok report ∧
      report.steps.map (fun step => step.event.type) = types ∧
      (∀ lines, Sends lines types →
        let s := (new m).enterAll diag (startLine startAt :: lines)
        s.history.map noticeLine =
          ("(start) -> " ++ report.initial.display) ::
            report.steps.map (fun step => step.event.type ++ " -> " ++ step.state.display) ∧
        s.path = report.final ∧ s.interpreter.context = report.context) ∧
      ∀ cut : List (List String), cut.flatten = types → Sends (cut.map sendLine) types := by
  have hwords : ∀ p, startAt = some p → Text.IsWord p ∧ p.toList.head? ≠ some '\x7b' := by
    intro p hp
    obtain ⟨hnot, hbrace, hlookup⟩ := hstart p hp
    obtain ⟨q, hq⟩ := Option.isSome_iff_exists.mp hlookup
    exact ⟨⟨(Machine.realizes_of_ofDefinition hm).ne_empty_of_lookup hq, hnot⟩, hbrace⟩
  obtain ⟨node, hnode⟩ : ∃ node, m.startNode? (scriptOf startAt types) = some node := by
    cases hp : startAt with
    | none => exact ⟨Machine.root, rfl⟩
    | some p => exact Option.isSome_iff_exists.mp (hstart p hp).2.2
  refine ⟨_, congrArg Run.result (Machine.run_silent hnode mode), ?_, ?_, ?_⟩
  · have hevents : (m.course (scriptOf startAt types) .silent node).map Passage.event =
        eventsOf types := m.map_event_passages ..
    have hfield : ((m.course (scriptOf startAt types) .silent node).map Passage.event).map
        Event.type = types := by
      rw [hevents, map_type_eventsOf]
    rw [List.map_map] at hfield
    show ((m.course (scriptOf startAt types) .silent node).map m.stepOf).map _ = types
    rw [List.map_map]
    exact hfield
  · intro lines hlines s
    obtain ⟨hstarted, hopening⟩ := runs_startWith hnode
    have hs : s = ((new m).startWith diag startAt none).1.enterAll diag lines := by
      rw [show s = _ from enterAll_cons (new m) (startLine startAt) lines,
        enter_of_ofLine? (ofLine?_startLine hwords)]
      rfl
    rw [hs]
    obtain ⟨hruns, hhistory⟩ := hlines.runs hstarted
    obtain ⟨seen, hwatched⟩ := hruns.watched
    refine ⟨?_, ?_, hruns.context⟩
    · -- the session was told of the start and of each event, like the observer of the run
      rw [← map_noticeLine_notices, hhistory, hopening, Machine.notices, Machine.course,
        Machine.map_notice_passages]
      rfl
    · rw [Machine.final_reportOf, path, Interpreter.snapshot, hwatched.machine, hruns.active,
        Machine.activeAt, List.take_length]
      rfl
  · rintro cut rfl
    exact sends_map_sendLine htypes

/-- An order that starts in the middle, with two events on one line, a look at the history and a
blank line in between, and one that the machine ignores. -/
theorem session_follows_run_order :
    let types := ["SHIP", "DELIVER", "PAY"]
    let lines := ["history", "Send SHIP  DELIVER", " ", "s PAY"]
    let s := (new Machine.order).enterAll default ("start active" :: lines)
    Sends lines types ∧ s.history.map noticeLine =
      ["(start) -> order.active.processing", "SHIP -> order.active.shipped",
        "DELIVER -> order.closed.delivered", "PAY -> order.closed.delivered"] := by
  intro types lines s
  have hstart : ∀ p, some "active" = some p → (∀ c ∈ p.toList, Text.isBlank c = false) ∧
      p.toList.head? ≠ some '\x7b' ∧ (Machine.order.lookup p).isSome = true := by
    have hword : Text.IsWord "active" := by decide
    have hlookup : (Machine.order.lookup "active").isSome = true := by decide +kernel
    rintro p ⟨⟩
    exact ⟨hword.notBlank, by decide, hlookup⟩
  have htypes : ∀ type ∈ types, Text.IsWord type := by decide
  have hlook : IsAside "history" := by
    have hhistory : Text.words "history" = ["history"] := by decide +kernel
    intro name arguments hwords
    rw [hhistory] at hwords
    cases hwords
    decide +kernel
  have hblank : IsAside " " := nofun
  have htwo : Text.words "Send SHIP  DELIVER" = "Send" :: ["SHIP", "DELIVER"] := by decide +kernel
  have hone : Text.words "s PAY" = "s" :: ["PAY"] := by decide +kernel
  have hpay : Sends [" ", "s PAY"] ["PAY"] :=
    .aside hblank (.send hone (by decide +kernel) .nil)
  have hlines : Sends lines types := .aside hlook (.send htwo (by decide +kernel) hpay)
  obtain ⟨report, hreport, -, hsession, -⟩ :=
    session_follows_run default Machine.ofDefinition_order hstart htypes .stop
  refine ⟨hlines, (hsession lines hlines).1.trans ?_⟩
  cases hreport
  decide +kernel

end Session

end Statechart
