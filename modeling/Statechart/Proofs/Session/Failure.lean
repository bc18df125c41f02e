import Statechart.Proofs.Session.Lines
/-!
Lines that fail. The observer of a session never fails, so that a request fails only at its checks,
and these come before anything is done; a line with several events is no exception, since a session
that takes the first of them takes them all. Main statement: a line that fails leaves the session as
it was, only five requests can change it, and a session that runs records each event of a line.
-/

namespace Statechart.Session

open Json (Value)

variable {s : Session}

/-! ## Events of one line -/

/-- A session that runs records every event that it is sent, in order. -/
theorem Recorded.exists_history_driveEvents (h : s.Recorded)
    (hrunning : s.interpreter.isRunning = true) (types : List String) :
    ∃ added, (s.driveEvents types).history = s.history ++ added ∧
      added.map (fun n => n.event.map Event.type) = types.map some := by
  induction types generalizing s with
  | nil => exact ⟨[], (List.append_nil _).symm, rfl⟩
  | cons type rest ih =>
    have hadmits : s.interpreter.admits (.send { type }) = true := hrunning
    obtain ⟨added, hadded, htypes⟩ :=
      ih (h.drive (.inl rfl)) (h.send_of_isRunning hrunning { type }).2
    refine ⟨s.interpreter.notice (.send { type }) :: added, ?_, ?_⟩
    · have hdrive : s.driveEvents (type :: rest) = (s.drive (.send { type })).driveEvents rest := rfl
      rw [hdrive, hadded, h.history_drive_of_admits hadmits, List.append_assoc]
      rfl
    · rw [List.map_cons, List.map_cons, htypes]
      rfl

/-- A session that runs answers a line of events, and takes them all. -/
theorem Recorded.exists_sendTypes_of_isRunning (h : s.Recorded)
    (hrunning : s.interpreter.isRunning = true) (types : List String) :
    ∃ text, s.sendTypes types = (s.driveEvents types, .output text) := by
  obtain ⟨steps, hsteps⟩ := h.exists_sendAll_of_isRunning hrunning types
  cases types with
  | nil => exact ⟨_, rfl⟩
  | cons type rest =>
    refine ⟨block (steps.map stepLine), ?_⟩
    simp [sendTypes, hsteps]

/-! ## The history as it is shown -/

theorem length_historyLines (s : Session) : s.historyLines.length = s.history.length := by
  rw [historyLines, List.length_map, List.length_zipIdx]

/-! ## Any line -/

/-- Whatever lines were typed before, a line that fails leaves the session as it was: its interpreter
with its status, its active path, its contexts and its observers, and the history. So does every line,
failing or not, that does not start, send, stop or reset. A session that runs takes a line of events,
and its history grows by one notice for each of them, in order. -/
theorem untouched_by_failing_line (diag : Diagnostics) (m : Machine) (before : List String)
    (line : String) :
    let s := (new m).enterAll diag before
    (∀ e, (s.enter diag line).2 = .failed e → (s.enter diag line).1 = s) ∧
    ((∀ name arguments, Text.words line = name :: arguments →
      Text.lowercase name ∉ ["start", "send", "s", "stop", "reset"]) →
        (s.enter diag line).1 = s) ∧
    (∀ name types, Text.words line = name :: types → Text.lowercase name ∈ ["send", "s"] →
      s.interpreter.isRunning = true →
      (∃ text, (s.enter diag line).2 = .output text) ∧
      (s.enter diag line).1.historyLines.length = s.historyLines.length + types.length ∧
      ∃ added, (s.enter diag line).1.history = s.history ++ added ∧
        added.map (fun n => n.event.map Event.type) = types.map some) := by
  intro s
  have hrecorded : s.Recorded := recorded_enterAll m before
  refine ⟨?_, ?_, ?_⟩
  · intro e he
    exact fst_enter_of_failed m before he
  · intro hline
    exact s.fst_enter_of_notMem hline
  · intro name types hwords hname hrunning
    obtain ⟨text, hsent⟩ := hrecorded.exists_sendTypes_of_isRunning hrunning types
    obtain ⟨added, hadded, htypes⟩ := hrecorded.exists_history_driveEvents hrunning types
    have henter : s.enter diag line = (s.driveEvents types, .output text) := by
      rw [enter_of_ofLine? (ofLine?_send hwords hname), execute, hsent]
    have hlength : added.length = types.length := by
      have hmap := congrArg List.length htypes
      rwa [List.length_map, List.length_map] at hmap
    rw [henter]
    refine ⟨⟨text, rfl⟩, ?_, added, hadded, htypes⟩
    rw [length_historyLines, length_historyLines, hadded, List.length_append, hlength]

/-- An order that refuses a state that it does not have, a context that is no JSON and two events
before the start, and that records three events of one line once it runs. -/
theorem untouched_by_failing_line_order :
    let diag := brokenOff
    let idle := (new Machine.order).enterAll diag ["context", "start nowhere"]
    let running := (new Machine.order).enterAll diag ["start"]
    (idle.enter diag "start nowhere \x7b\x7d").2 =
        .failed (.interpreter (.unknownState "nowhere")) ∧
      (idle.enter diag "start nowhere \x7b\x7d").1 = idle ∧
      (idle.enter diag "start active \x7b\"id\"").2 =
        .failed (.malformedContext "EOF while parsing an object at line 1 column 5") ∧
      (idle.enter diag "start active \x7b\"id\"").1 = idle ∧
      (idle.enter diag "send PAY SHIP").2 = .failed (.interpreter (.notRunning .idle)) ∧
      (idle.enter diag "send PAY SHIP").1 = idle ∧
      (running.enter diag "Events").1 = running ∧
      (running.enter diag "Send PAY WAIT  SHIP").1.historyLines.length = 4 := by
  intro diag idle running
  have hstate : (idle.enter diag "start nowhere \x7b\x7d").2 =
      .failed (.interpreter (.unknownState "nowhere")) := by decide +kernel
  have hcontext : (idle.enter diag "start active \x7b\"id\"").2 =
      .failed (.malformedContext "EOF while parsing an object at line 1 column 5") := by
    decide +kernel
  have hevents : (idle.enter diag "send PAY SHIP").2 =
      .failed (.interpreter (.notRunning .idle)) := by decide +kernel
  have hlook : Text.words "Events" = ["Events"] := by decide +kernel
  have hsend : Text.words "Send PAY WAIT  SHIP" = "Send" :: ["PAY", "WAIT", "SHIP"] := by
    decide +kernel
  have hother : ∀ name arguments, Text.words "Events" = name :: arguments →
      Text.lowercase name ∉ ["start", "send", "s", "stop", "reset"] := by
    intro name arguments hwords
    rw [hlook] at hwords
    cases hwords
    decide +kernel
  have hunchanged := untouched_by_failing_line diag Machine.order ["context", "start nowhere"]
  have hlooks := (untouched_by_failing_line diag Machine.order ["start"] "Events").2.1 hother
  have hrecords := (untouched_by_failing_line diag Machine.order ["start"] "Send PAY WAIT  SHIP").2.2
    "Send" _ hsend (by decide +kernel) (by decide +kernel)
  refine ⟨hstate, (hunchanged _).1 _ hstate, hcontext, (hunchanged _).1 _ hcontext, hevents,
    (hunchanged _).1 _ hevents, hlooks, ?_⟩
  exact hrecords.2.1

end Statechart.Session
