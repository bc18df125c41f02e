import Statechart.Run
import Statechart.Session.Transcript
import Statechart.Proofs.Interpreter.Lifecycle
/-!
What lines do to a session. A request looks at the session, makes calls on its interpreter, or resets
it; calls are recorded in the history. Main statements: the ways in which a request can leave a
session, that the history is what the observer was given, that a line which fails leaves no trace, and
that a session which was reset is a new one, whatever it went through before.
-/

namespace Statechart.Session

open Json (Value)

/-! ## Lines -/

/-- Carries out a line: the session afterwards and what comes of it. A line that asks for nothing
shows nothing. -/
def enter (diag : Diagnostics) (s : Session) (line : String) : Session × Outcome :=
  match Request.ofLine? line with
  | none => (s, .output "")
  | some request => s.execute diag request

/-- The session after some lines, one after the other. -/
def enterAll (diag : Diagnostics) (s : Session) (lines : List String) : Session :=
  lines.foldl (fun s line => (s.enter diag line).1) s

/-- What is seen of a line: the label of the prompt at which it is typed, and what comes of it. -/
structure Exchange where
  label : String
  outcome : Outcome
deriving DecidableEq, Repr

/-- What is seen of some lines, one after the other. -/
def exchanges (diag : Diagnostics) (s : Session) : List String → List Exchange
  | [] => []
  | line :: rest => ⟨s.label, (s.enter diag line).2⟩ :: exchanges diag (s.enter diag line).1 rest

variable {diag : Diagnostics}

theorem enter_of_ofLine?_eq_none {s : Session} {line : String}
    (h : Request.ofLine? line = none) : s.enter diag line = (s, .output "") := by
  simp only [enter, h]

theorem enter_of_ofLine? {s : Session} {line : String} {r : Request}
    (h : Request.ofLine? line = some r) : s.enter diag line = s.execute diag r := by
  simp only [enter, h]

theorem ofLine?_of_words {line name : String} {arguments : List String}
    (h : Text.words line = name :: arguments) :
    Request.ofLine? line = some (Request.named (Text.lowercase name) arguments) := by
  rw [Request.ofLine?, h]
  rfl

theorem ofLine?_send {line name : String} {types : List String}
    (hwords : Text.words line = name :: types) (hname : Text.lowercase name ∈ ["send", "s"]) :
    Request.ofLine? line = some (.send types) := by
  rw [ofLine?_of_words hwords]
  simp only [List.mem_cons, List.not_mem_nil, or_false] at hname
  rcases hname with hsend | hs
  · rw [hsend]
    rfl
  · rw [hs]
    rfl

theorem enterAll_cons (s : Session) (line : String) (rest : List String) :
    s.enterAll diag (line :: rest) = (s.enter diag line).1.enterAll diag rest := rfl

/-! ## What a request can do -/

/-- A request that only looks at a session, or takes leave of it. -/
def Request.looks : Request → Bool
  | .start _ _ | .send _ | .stop | .reset => false
  | _ => true

/-- What no request that changes a session is named for only looks at it. -/
theorem looks_named {name : String} (h : name ∉ ["start", "send", "s", "stop", "reset"])
    (arguments : List String) : (Request.named name arguments).looks = true := by
  unfold Request.named
  split <;> simp_all [Request.looks]

/-- The session after a call on its interpreter. -/
def drive (s : Session) (op : Operation Value) : Session :=
  { s with
    interpreter := s.interpreter.perform op
    history := s.history ++ (s.interpreter.calls op).map Prod.snd }

/-- The session after events have been sent, one after the other. -/
def driveEvents (s : Session) (types : List String) : Session :=
  types.foldl (fun s type => s.drive (.send { type })) s

/-- The call that starts an interpreter in a given state or in the initial one. -/
def startCall (state : Option String) (context : Option Value) : Operation Value :=
  state.elim (.start context) fun path => .startAt path context

/-- The ways in which a request can leave a session. -/
inductive Effect (s : Session) : Request → Session → Prop
  | looked {r : Request} (h : r.looks = true) : Effect s r s
  | refused (state : Option String) {text : String} (h : Value.parse? text = none) :
      Effect s (.start state (some text)) s
  | started (state : Option String) {context : Option String} {given : Option Value}
      (h : context.map Value.parse? = given.map some) :
      Effect s (.start state context) (s.drive (startCall state given))
  | sent {sent types : List String} (h : sent <+: types) :
      Effect s (.send types) (s.driveEvents sent)
  | stopped : Effect s .stop (s.drive .stop)
  | reset : Effect s .reset s.reset

theorem fst_conclude {α : Type} (s : Session) (reply : Reply Value α)
    (describe : Session → α → String) : (s.conclude reply describe).1 = s.after reply := by
  unfold conclude
  split <;> rfl

/-- Events are sent up to and including the first one that fails. -/
theorem exists_prefix_sendAll (s : Session) (types : List String) :
    ∃ sent, sent <+: types ∧ (s.sendAll types).1 = s.driveEvents sent := by
  induction types generalizing s with
  | nil => exact ⟨[], List.prefix_rfl, rfl⟩
  | cons type rest ih =>
    cases hresult : (s.interpreter.send { type }).result with
    | error e =>
      refine ⟨[type], ⟨rest, rfl⟩, ?_⟩
      simp only [sendAll, hresult]
      rfl
    | ok step =>
      obtain ⟨sent, hsent, hrest⟩ := ih (s.drive (.send { type }))
      refine ⟨type :: sent, List.prefix_cons_iff.mpr (.inr ⟨sent, rfl, hsent⟩), ?_⟩
      simp only [sendAll, hresult]
      exact hrest

theorem isStart_startCall (state : Option String) (context : Option Value) :
    (startCall state context).isStart = true := by
  cases state <;> rfl

/-- What stands between a start and the call that it makes is its context. -/
theorem startWith_of_parse? (s : Session) (state : Option String) {context : Option String}
    {given : Option Value} (h : context.map Value.parse? = given.map some) :
    s.startWith diag state context =
      s.conclude (Machine.startScript ⟨state, given, []⟩ s.interpreter)
        fun s _ => "Started in " ++ s.path.display := by
  cases context with
  | none =>
    cases given with
    | none => rfl
    | some v => cases h
  | some text =>
    cases given with
    | none => cases h
    | some v =>
      have hparse : Value.parse? text = some v := Option.some.inj h
      simp only [startWith, hparse]
      rfl

theorem startWith_of_parse?_eq_none (s : Session) (state : Option String) {text : String}
    (h : Value.parse? text = none) :
    s.startWith diag state (some text) = (s, .failed (.malformedContext (diag.context text))) := by
  simp only [startWith, h]

theorem after_startScript (s : Session) (state : Option String) (given : Option Value) :
    s.after (Machine.startScript ⟨state, given, []⟩ s.interpreter) =
      s.drive (startCall state given) := by
  cases state <;> rfl

theorem error?_startScript (i : Interpreter Value) (state : Option String) (given : Option Value) :
    (Machine.startScript ⟨state, given, []⟩ i).error? = i.error? (startCall state given) := by
  cases state <;> rfl

/-- The context of a start is no JSON, or there is something to start with. -/
theorem malformed_or_exists_given (context : Option String) :
    (∃ text, context = some text ∧ Value.parse? text = none) ∨
      ∃ given : Option Value, context.map Value.parse? = given.map some := by
  cases context with
  | none => exact .inr ⟨none, rfl⟩
  | some text =>
    cases hparse : Value.parse? text with
    | none => exact .inl ⟨text, rfl, hparse⟩
    | some v => exact .inr ⟨some v, congrArg some hparse⟩

theorem effect_startWith (s : Session) (state context : Option String) :
    s.Effect (.start state context) (s.startWith diag state context).1 := by
  rcases malformed_or_exists_given context with ⟨text, rfl, hparse⟩ | ⟨given, hgiven⟩
  · rw [startWith_of_parse?_eq_none s state hparse]
    exact .refused state hparse
  · rw [startWith_of_parse? s state hgiven, fst_conclude, after_startScript]
    exact .started state hgiven

theorem fst_sendTypes (s : Session) (types : List String) :
    (s.sendTypes types).1 = (s.sendAll types).1 := by
  unfold sendTypes
  split
  · next hempty =>
    have hnil : types = [] := List.isEmpty_iff.mp hempty
    rw [hnil]
    rfl
  · split
    · next heq => rw [heq]
    · next heq => rw [heq]

theorem effect_sendTypes (s : Session) (types : List String) :
    s.Effect (.send types) (s.sendTypes types).1 := by
  obtain ⟨sent, hsent, hafter⟩ := s.exists_prefix_sendAll types
  rw [fst_sendTypes, hafter]
  exact .sent hsent

theorem effect_execute (s : Session) (r : Request) : s.Effect r (s.execute diag r).1 := by
  cases r with
  | start state context => exact s.effect_startWith state context
  | send types => exact s.effect_sendTypes types
  | stop =>
    rw [execute, fst_conclude]
    exact .stopped
  | reset => exact .reset
  | _ => exact .looked rfl

/-- A request that only looks leaves a session as it is. -/
theorem fst_execute_of_looks {r : Request} (h : r.looks = true) (s : Session) :
    (s.execute diag r).1 = s := by
  cases r <;> first | rfl | cases h

/-- So does a line whose first word names no request that changes a session. -/
theorem fst_enter_of_notMem (s : Session) {line : String}
    (h : ∀ name arguments, Text.words line = name :: arguments →
      Text.lowercase name ∉ ["start", "send", "s", "stop", "reset"]) :
    (s.enter diag line).1 = s := by
  cases hwords : Text.words line with
  | nil => rw [enter_of_ofLine?_eq_none (Request.ofLine?_eq_none_iff.mpr hwords)]
  | cons name arguments =>
    rw [enter_of_ofLine? (ofLine?_of_words hwords)]
    exact fst_execute_of_looks (looks_named (h name arguments hwords) arguments) s

/-- What every request keeps is kept by any number of lines. -/
theorem enterAll_induction {P : Session → Prop} {s : Session}
    (hstep : ∀ {s r s'}, Effect s r s' → P s → P s') (h : P s) (lines : List String) :
    P (s.enterAll diag lines) := by
  induction lines generalizing s with
  | nil => exact h
  | cons line rest ih =>
    rw [enterAll_cons]
    apply ih
    cases hline : Request.ofLine? line with
    | none => rwa [enter_of_ofLine?_eq_none hline]
    | some r =>
      rw [enter_of_ofLine? hline]
      exact hstep (s.effect_execute r) h

/-! ## The history -/

/-- The observer of a session has been given what the history tells, in this order; a session that
was stopped has none any more. -/
def Recorded (s : Session) : Prop :=
  s.interpreter.observers = [⟨0, .silent, s.history.reverse⟩] ∨
    s.interpreter.status = .stopped ∧ s.interpreter.observers = []

theorem recorded_new (m : Machine) : (new m).Recorded := .inl rfl

/-- An admitted call tells the observer of a session, which does not fail. -/
theorem Recorded.round_of_admits {s : Session} (h : s.Recorded) {op : Operation Value}
    (hadmits : s.interpreter.admits op = true) : s.interpreter.round op =
      ⟨[⟨0, .silent, s.interpreter.notice op :: s.history.reverse⟩], [0], none⟩ := by
  rcases h with hobservers | ⟨hstopped, -⟩
  · rw [Interpreter.round, hobservers]
    rfl
  · exact absurd hadmits (Interpreter.not_admits_of_stopped hstopped op)

/-- The history takes in what an admitted call tells. -/
theorem Recorded.history_drive_of_admits {s : Session} (h : s.Recorded) {op : Operation Value}
    (hadmits : s.interpreter.admits op = true) :
    (s.drive op).history = s.history ++ [s.interpreter.notice op] := by
  rw [Session.drive, (Interpreter.perform_of_admits hadmits).2.1, h.round_of_admits hadmits]
  rfl

/-- What a call tells goes to the observer and to the history alike. -/
theorem Recorded.drive {s : Session} (h : s.Recorded) {op : Operation Value}
    (hop : op.isMove = true ∨ op = .stop) : (s.drive op).Recorded := by
  by_cases hadmits : s.interpreter.admits op = true
  · refine .inl ?_
    rw [h.history_drive_of_admits hadmits, Session.drive, (Interpreter.perform_of_admits hadmits).1,
      h.round_of_admits hadmits]
    simp
  · have hhistory : (s.drive op).history = s.history := by
      rw [Session.drive, Interpreter.calls_of_not_admits hadmits]
      exact List.append_nil s.history
    cases hfault : s.interpreter.fault? op with
    | some e =>
      have hsame : (s.drive op).interpreter = s.interpreter :=
        (Interpreter.refused_of_fault? hfault).1
      rwa [Recorded, hhistory, hsame]
    | none =>
      -- with nothing wrong about it, a call that tells nobody is a stop
      rcases hop with hmove | rfl
      · exact absurd (Interpreter.admits_of_fault?_eq_none hmove hfault) hadmits
      · have hrunning : s.interpreter.isRunning = true :=
          Interpreter.runFault?_eq_none_iff.mp hfault
        refine .inr ?_
        rw [Session.drive, Interpreter.perform, Interpreter.stop, if_pos hrunning]
        exact ⟨rfl, rfl⟩

theorem Recorded.driveEvents {s : Session} (h : s.Recorded) (types : List String) :
    (s.driveEvents types).Recorded := by
  induction types generalizing s with
  | nil => exact h
  | cons type rest ih => exact ih (h.drive (.inl rfl))

theorem Effect.recorded {s s' : Session} {r : Request} (h : s.Effect r s') (hs : s.Recorded) :
    s'.Recorded := by
  cases h with
  | looked _ => exact hs
  | refused _ _ => exact hs
  | started state _ =>
    exact hs.drive (.inl (Operation.isMove_of_isStart (isStart_startCall state _)))
  | sent _ => exact hs.driveEvents _
  | stopped => exact hs.drive (.inr rfl)
  | reset => exact recorded_new s.machine

/-- Whatever lines are typed, a session has recorded what its observer was given, no more and no
less. -/
theorem recorded_enterAll (m : Machine) (lines : List String) :
    ((new m).enterAll diag lines).Recorded :=
  enterAll_induction (fun h => h.recorded) (recorded_new m) lines

/-! ## Failures -/

/-- The words for a context that breaks off inside an object on its only line. -/
def brokenOff : Diagnostics :=
  { (default : Diagnostics) with
    context := fun text =>
      "EOF while parsing an object at line 1 column " ++ toString text.utf8ByteSize }

section Failing

variable {s : Session} {op : Operation Value}

/-- The observer of a session never fails, so that no call fails which gets past its checks. -/
theorem Recorded.not_admits_of_error (h : s.Recorded) {e : InterpreterError}
    (he : s.interpreter.error? op = some e) : ¬ s.interpreter.admits op = true := by
  intro hadmits
  rw [(Interpreter.perform_of_admits hadmits).2.2, h.round_of_admits hadmits] at he
  cases he

/-- Such a call fails with what its checks find. -/
theorem Recorded.fault?_of_error (h : s.Recorded) {e : InterpreterError}
    (he : s.interpreter.error? op = some e) : s.interpreter.fault? op = some e := by
  have hnot := h.not_admits_of_error he
  cases hfault : s.interpreter.fault? op with
  | none =>
    rw [(Interpreter.silent_of_not_admits hfault hnot).2] at he
    cases he
  | some e' => rw [← (Interpreter.refused_of_fault? hfault).2.2, he]

theorem Recorded.drive_eq_of_error (h : s.Recorded) {e : InterpreterError}
    (he : s.interpreter.error? op = some e) : s.drive op = s := by
  obtain ⟨hperform, hcalls, -⟩ := Interpreter.refused_of_fault? (h.fault?_of_error he)
  rw [Session.drive, hperform, hcalls]
  simp

theorem error?_of_conclude {α : Type} {reply : Reply Value α} {describe : Session → α → String}
    {e : Error} (h : (s.conclude reply describe).2 = .failed e) :
    ∃ e', e = .interpreter e' ∧ reply.error? = some e' := by
  unfold conclude at h
  cases hresult : reply.result with
  | ok a =>
    simp only [hresult] at h
    cases h
  | error e' =>
    simp only [hresult] at h
    cases h
    exact ⟨e', rfl, by rw [Reply.error?, hresult]⟩

/-- A session that runs takes an event, and runs on. -/
theorem Recorded.send_of_isRunning (h : s.Recorded) (hrunning : s.interpreter.isRunning = true)
    (event : Event) :
    (∃ step, (s.interpreter.send event).result = .ok step) ∧
      (s.drive (.send event)).interpreter.isRunning = true := by
  have hadmits : s.interpreter.admits (.send event) = true := hrunning
  refine ⟨?_, ?_⟩
  · cases hresult : (s.interpreter.send event).result with
    | ok step => exact ⟨step, rfl⟩
    | error e =>
      have herror : s.interpreter.error? (.send event) = some e := by
        rw [Interpreter.error?, Reply.error?, hresult]
      exact absurd hadmits (h.not_admits_of_error herror)
  · rw [Session.drive, (Interpreter.perform_of_admits hadmits).1]
    exact hrunning

/-- A session that runs takes all of several events. -/
theorem Recorded.exists_sendAll_of_isRunning (h : s.Recorded)
    (hrunning : s.interpreter.isRunning = true) (types : List String) :
    ∃ steps, s.sendAll types = (s.driveEvents types, .ok steps) := by
  induction types generalizing s with
  | nil => exact ⟨[], rfl⟩
  | cons type rest ih =>
    obtain ⟨⟨step, hstep⟩, hnext⟩ := h.send_of_isRunning hrunning { type }
    obtain ⟨steps, hsteps⟩ := ih (h.drive (.inl rfl)) hnext
    refine ⟨step :: steps, ?_⟩
    have hrest : (s.after (s.interpreter.send { type })).sendAll rest =
        (s.driveEvents (type :: rest), .ok steps) := hsteps
    simp only [sendAll, hstep, hrest]
    rfl

theorem result_send_of_runFault? {e : InterpreterError} (h : s.interpreter.runFault? = some e)
    (event : Event) : (s.interpreter.send event).result = .error e := by
  obtain ⟨hrunning, rfl⟩ := Interpreter.runFault?_eq_some_iff.mp h
  rw [Interpreter.send, if_neg hrunning]
  rfl

/-- Several events fail only if none of them is taken, since a session that runs takes them all. -/
theorem Recorded.runFault?_of_sendAll (h : s.Recorded) {types : List String}
    {e : InterpreterError} (he : (s.sendAll types).2 = .error e) :
    s.interpreter.runFault? = some e := by
  have hrunning : ¬ s.interpreter.isRunning = true := by
    intro hrunning
    obtain ⟨steps, hsteps⟩ := h.exists_sendAll_of_isRunning hrunning types
    rw [hsteps] at he
    cases he
  have hrun : s.interpreter.runFault? = some (.notRunning s.interpreter.status) :=
    Interpreter.runFault?_eq_some_iff.mpr ⟨hrunning, rfl⟩
  cases types with
  | nil => cases he
  | cons type rest =>
    simp only [sendAll, result_send_of_runFault? hrun] at he
    cases he
    exact hrun

theorem Recorded.fst_sendAll_of_error (h : s.Recorded) {types : List String}
    {e : InterpreterError} (he : (s.sendAll types).2 = .error e) : (s.sendAll types).1 = s := by
  have hrun := h.runFault?_of_sendAll he
  cases types with
  | nil => rfl
  | cons type rest =>
    have hfault : s.interpreter.fault? (.send { type }) = some e := hrun
    simp only [sendAll, result_send_of_runFault? hrun]
    exact h.drive_eq_of_error (Interpreter.refused_of_fault? hfault).2.2

theorem Recorded.fst_startWith_of_failed (h : s.Recorded) {state context : Option String} {e : Error}
    (he : (s.startWith diag state context).2 = .failed e) :
    (s.startWith diag state context).1 = s := by
  rcases malformed_or_exists_given context with ⟨text, rfl, hparse⟩ | ⟨given, hgiven⟩
  · rw [startWith_of_parse?_eq_none s state hparse]
  · rw [startWith_of_parse? s state hgiven] at he ⊢
    obtain ⟨e', -, herror⟩ := error?_of_conclude he
    rw [error?_startScript] at herror
    rw [fst_conclude, after_startScript]
    exact h.drive_eq_of_error herror

theorem sendAll_of_sendTypes {types : List String} {e : Error}
    (h : (s.sendTypes types).2 = .failed e) :
    ∃ e', e = .interpreter e' ∧ (s.sendAll types).2 = .error e' := by
  unfold sendTypes at h
  split at h
  · cases h
  · split at h
    · cases h
    · next heq =>
      cases h
      exact ⟨_, rfl, congrArg Prod.snd heq⟩

theorem Recorded.fst_sendTypes_of_failed (h : s.Recorded) {types : List String} {e : Error}
    (he : (s.sendTypes types).2 = .failed e) : (s.sendTypes types).1 = s := by
  obtain ⟨e', -, herror⟩ := sendAll_of_sendTypes he
  rw [fst_sendTypes]
  exact h.fst_sendAll_of_error herror

/-- A request that fails leaves a session as it was. -/
theorem Recorded.fst_execute_of_failed (h : s.Recorded) {r : Request} {e : Error}
    (he : (s.execute diag r).2 = .failed e) : (s.execute diag r).1 = s := by
  cases r with
  | start state context => exact h.fst_startWith_of_failed he
  | send types => exact h.fst_sendTypes_of_failed he
  | stop =>
    obtain ⟨e', -, herror⟩ := error?_of_conclude he
    rw [execute, fst_conclude]
    exact h.drive_eq_of_error (show s.interpreter.error? .stop = some e' from herror)
  | reset => cases he
  | _ => exact fst_execute_of_looks rfl s

/-- Whatever came before it, a line that fails leaves no trace. -/
theorem fst_enter_of_failed (m : Machine) (before : List String) {line : String} {e : Error}
    (he : (((new m).enterAll diag before).enter diag line).2 = .failed e) :
    (((new m).enterAll diag before).enter diag line).1 = (new m).enterAll diag before := by
  cases hline : Request.ofLine? line with
  | none => rw [enter_of_ofLine?_eq_none hline]
  | some r =>
    rw [enter_of_ofLine? hline] at he ⊢
    exact (recorded_enterAll m before).fst_execute_of_failed he

end Failing

/-! ## Resets -/

theorem machine_driveEvents (s : Session) (types : List String) :
    (s.driveEvents types).machine = s.machine := by
  induction types generalizing s with
  | nil => rfl
  | cons type rest ih => exact ih (s.drive (.send { type }))

/-- A session is about one machine for good. -/
theorem Effect.machine {s s' : Session} {r : Request} (h : s.Effect r s') :
    s'.machine = s.machine := by
  cases h with
  | sent _ => exact machine_driveEvents s _
  | _ => rfl

theorem machine_enterAll (s : Session) (lines : List String) :
    (s.enterAll diag lines).machine = s.machine :=
  enterAll_induction (P := fun t => t.machine = s.machine) (fun h => h.machine.trans) rfl lines

/-- A reset takes away everything but the machine: the interpreter with its observers, its state and
its contexts, and the history. -/
theorem reset_eq_new (s : Session) : s.reset = new s.machine := rfl

/-- A session that was reset is a new one over its machine. -/
theorem enterAll_reset (m : Machine) (before : List String) {line : String}
    (h : Request.ofLine? line = some .reset) :
    (new m).enterAll diag (before ++ [line]) = new m := by
  have hmachine : ((new m).enterAll diag before).machine = m := machine_enterAll (new m) before
  have hreset : ((new m).enterAll diag before).reset = new m := by
    rw [reset_eq_new, hmachine]
  have hlast : (new m).enterAll diag (before ++ [line]) =
      (((new m).enterAll diag before).enter diag line).1 := by
    simp [enterAll]
  rw [hlast, enter_of_ofLine? h]
  exact hreset

/-- Whatever a session went through, from a reset on it cannot be told from a new one over the same
machine: every line is typed at the same prompt and comes to the same, be it a text, an error or the
end; so is the prompt behind the last line, and so is all that is printed. -/
theorem exchanges_after_reset (diag : Diagnostics) (m : Machine) (before after : List String)
    {line : String} (h : Request.ofLine? line = some .reset) :
    let s := (new m).enterAll diag (before ++ [line])
    s.exchanges diag after = (new m).exchanges diag after ∧
      (s.enterAll diag after).label = ((new m).enterAll diag after).label ∧
      s.transcript diag after = (new m).transcript diag after := by
  intro s
  have hnew : s = new m := enterAll_reset m before h
  rw [hnew]
  exact ⟨rfl, rfl, rfl⟩

/-- An order that was closed and whose session was stopped, and had refused another start. -/
theorem exchanges_after_reset_order :
    let s := (new Machine.order).enterAll default
      ["start closed.refunded \x7b\"id\":7\x7d", "send PAY", "stop", "start", "reset"]
    Request.ofLine? "reset" = some .reset ∧
      s.exchanges default ["history", "context", "Start", "quit"] =
        [⟨"order (idle)>", .output "No transitions"⟩, ⟨"order (idle)>", .output "null"⟩,
          ⟨"order (idle)>", .output "Started in order.pending"⟩, ⟨"pending>", .quit⟩] := by
  intro s
  have hreset : Request.ofLine? "reset" = some .reset := by decide +kernel
  obtain ⟨hsame, -, -⟩ := exchanges_after_reset default Machine.order
    ["start closed.refunded \x7b\"id\":7\x7d", "send PAY", "stop", "start"]
    ["history", "context", "Start", "quit"] hreset
  refine ⟨hreset, hsame.trans ?_⟩
  decide +kernel

end Statechart.Session
