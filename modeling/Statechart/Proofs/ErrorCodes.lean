import Statechart.CommandLine.Basic
import Statechart.Proofs.Run.FailureMode
import Statechart.Proofs.Session.Lines
/-!
The codes of what goes wrong. A command fails because its machine or its script cannot be loaded, or
because the script names no state to start in: nobody observes a run that is asked for, so that no
event of it fails. A line fails at the checks of the call that it makes, or before that, at a context
which is no JSON. Main statement: the failure of a command always has a code and is shown with it; so
has that of a line, whatever came before it, unless its context is no JSON.
-/

namespace Statechart

open Json (Value)

/-! ## Results that fail -/

section Results

variable {ε ε' α β : Type} {x : Except ε α}

theorem mapError_eq_error_iff {f : ε → ε'} {e' : ε'} :
    x.mapError f = .error e' ↔ ∃ e, x = .error e ∧ f e = e' := by
  cases x <;> simp [Except.mapError]

theorem map_eq_error_iff {f : α → β} {e : ε} : x.map f = .error e ↔ x = .error e := by
  cases x <;> simp [Except.map]

theorem bind_eq_error_iff {f : α → Except ε β} {e : ε} :
    x >>= f = .error e ↔ x = .error e ∨ ∃ a, x = .ok a ∧ f a = .error e := by
  cases x <;> simp [bind, Except.bind]

end Results

/-! ## Machines and scripts -/

/-- The codes of what is wrong with a definition. -/
def DefinitionError.codes : List String :=
  ["MISSING_INITIAL", "UNKNOWN_INITIAL", "INITIAL_WITHOUT_CHILDREN", "DUPLICATE_STATE",
    "INVALID_STATE_ID", "UNRESOLVED_TARGET", "INVALID_JSON"]

theorem DefinitionError.code_mem (e : DefinitionError) : e.code ∈ codes := by
  cases e <;> simp [code, codes]

/-- The codes of a machine or a script that cannot be loaded. -/
def loadCodes : List String :=
  ["IO_ERROR", "UNKNOWN_PRESET", "INVALID_YAML"] ++ DefinitionError.codes

namespace Failure

/-- The failure is that of a machine or a script which cannot be loaded. -/
def IsLoad : Failure → Prop
  | interpreter _ => False
  | _ => True

theorem IsLoad.code_mem {f : Failure} (h : f.IsLoad) : f.code ∈ loadCodes := by
  cases f with
  | interpreter e => exact h.elim
  | definition e => exact List.mem_append_right _ e.code_mem
  | _ => simp [code, loadCodes, DefinitionError.codes]

end Failure

variable {diag : Diagnostics} {files : Files} {f : Failure}

theorem isLoad_of_read {name : String} (h : files.read name = .error f) : f.IsLoad := by
  obtain ⟨fault, -, rfl⟩ := mapError_eq_error_iff.mp h
  trivial

namespace Machine

theorem isLoad_of_definition {x : Except DefinitionError Machine}
    (h : x.mapError .definition = .error f) : f.IsLoad := by
  obtain ⟨e, -, rfl⟩ := mapError_eq_error_iff.mp h
  trivial

theorem isLoad_of_builtin {name : String} (h : builtin name = .error f) : f.IsLoad := by
  unfold builtin at h
  split at h
  · exact isLoad_of_definition h
  · cases h
    trivial

theorem isLoad_of_ofFile {name : String} (h : ofFile diag files name = .error f) : f.IsLoad := by
  unfold ofFile at h
  rcases bind_eq_error_iff.mp h with hread | ⟨text, -, htext⟩
  · exact isLoad_of_read hread
  · -- the extension of the file tells how its text is read
    split at htext
    iterate 2
      · split at htext
        · exact isLoad_of_definition htext
        · cases htext
          trivial
    · exact isLoad_of_definition htext

theorem isLoad_of_load {source : String} (h : load diag files source = .error f) : f.IsLoad := by
  unfold load at h
  split at h
  · exact isLoad_of_builtin h
  · exact isLoad_of_ofFile h

end Machine

namespace Script

theorem isLoad_of_ofFile {name : String} (h : ofFile diag files name = .error f) : f.IsLoad := by
  unfold ofFile at h
  rcases bind_eq_error_iff.mp h with hread | ⟨text, -, htext⟩
  · exact isLoad_of_read hread
  · split at htext
    iterate 2
      · split at htext
        · cases htext
        · cases htext
          trivial

theorem isLoad_of_load {name : Option String} (h : load diag files name = .error f) : f.IsLoad := by
  unfold load at h
  split at h
  · exact isLoad_of_ofFile h
  · cases h

end Script

/-! ## Commands -/

/-- Why a run that is asked for fails: there is no machine, or no script, or the script names no state
of the machine to start in. -/
theorem RunRequest.perform_eq_error_iff {r : RunRequest} :
    r.perform diag files = .error f ↔
      Machine.load diag files r.machine = .error f ∨
        ∃ m, Machine.load diag files r.machine = .ok m ∧
          (Script.load diag files r.script = .error f ∨
            ∃ s, Script.load diag files r.script = .ok s ∧
              ∃ path, s.startAt = some path ∧ m.lookup path = none ∧
                f = .interpreter (.unknownState path)) := by
  unfold RunRequest.perform
  simp only [bind_eq_error_iff, mapError_eq_error_iff, Machine.result_silent_eq_error_iff]
  refine or_congr_right (exists_congr fun m => and_congr_right fun _ => or_congr_right
    (exists_congr fun s => and_congr_right fun _ => ?_))
  constructor
  · rintro ⟨e, ⟨path, hpath, hnone, rfl⟩, rfl⟩
    exact ⟨path, hpath, hnone, rfl⟩
  · rintro ⟨path, hpath, hnone, rfl⟩
    exact ⟨_, ⟨path, hpath, hnone, rfl⟩, rfl⟩

namespace Command

/-- The codes of what a command fails with. The built-in machines can always be listed. -/
def codes : Command → List String
  | machines => []
  | validate _ | inspect _ => loadCodes
  | run _ => "STATE_NOT_FOUND" :: loadCodes

theorem isOk_machineList : machineList.isOk = true := by decide +kernel

theorem code_mem_codes {c : Command} (h : c.execute diag files = .error f) :
    f.code ∈ c.codes := by
  cases c with
  | machines =>
    have hlist : machineList = .error f := h
    have hok := isOk_machineList
    rw [hlist] at hok
    cases hok
  | validate source =>
    have hload : Machine.load diag files source = .error f := map_eq_error_iff.mp h
    exact (Machine.isLoad_of_load hload).code_mem
  | inspect source =>
    have hload : Machine.load diag files source = .error f := map_eq_error_iff.mp h
    exact (Machine.isLoad_of_load hload).code_mem
  | run r =>
    have hperform : r.perform diag files = .error f := map_eq_error_iff.mp h
    rcases RunRequest.perform_eq_error_iff.mp hperform with
      hmachine | ⟨m, -, hscript | ⟨s, -, path, -, -, rfl⟩⟩
    · exact List.mem_cons_of_mem _ (Machine.isLoad_of_load hmachine).code_mem
    · exact List.mem_cons_of_mem _ (Script.isLoad_of_load hscript).code_mem
    · exact List.mem_cons_self

end Command

/-! ## Lines -/

/-- The codes of what is wrong with a call before any observer comes into play. -/
def callCodes : List String := ["NOT_RUNNING", "ALREADY_RUNNING", "STATE_NOT_FOUND"]

theorem Interpreter.code_mem_of_fault? {C : Type} {i : Interpreter C} {op : Operation C}
    {e : InterpreterError} (h : i.fault? op = some e) : e.code ∈ callCodes := by
  have hstart : ∀ e', i.startFault? = some e' → e'.code ∈ callCodes := by
    intro e' he'
    unfold startFault? at he'
    split at he'
    · cases he'
    · cases he'
      decide
    · cases he'
      decide
  have hrun : ∀ e', i.runFault? = some e' → e'.code ∈ callCodes := by
    intro e' he'
    obtain ⟨-, rfl⟩ := runFault?_eq_some_iff.mp he'
    exact List.mem_cons_self
  cases op with
  | start _ => exact hstart e h
  | startAt path _ =>
    -- the time is checked before the state
    rcases Option.or_eq_some_iff.mp h with htime | ⟨-, hpath⟩
    · exact hstart e htime
    · split at hpath
      · cases hpath
      · cases hpath
        simp [InterpreterError.code, callCodes]
  | send _ => exact hrun e h
  | stop => exact hrun e h
  | _ => cases h

namespace Session

namespace Error

/-- What is shown behind an error of a request that comes at the wrong time. -/
def hint : String := "\n  (use 'start' to begin, or 'reset' for a fresh interpreter)"

/-- The request came while the interpreter was not running, or although it had been started. -/
def Untimely (e : Error) : Prop :=
  e = .interpreter .alreadyRunning ∨ ∃ status, e = .interpreter (.notRunning status)

theorem isLifecycle_iff {e : Error} : e.isLifecycle = true ↔ e.Untimely := by
  unfold Untimely
  cases e with
  | malformedContext words => simp [isLifecycle]
  | interpreter e => cases e <;> simp [isLifecycle, InterpreterError.isLifecycle]

/-- An error is shown as its cause behind a heading, and the hint follows exactly if the request came
at the wrong time. -/
structure ShownBehind (e : Error) (heading : String) : Prop where
  untimely : e.Untimely → e.describe = heading ++ e.message ++ hint
  timely : ¬ e.Untimely → e.describe = heading ++ e.message

/-- What stands in front of the cause: the code, if there is one. -/
def heading (e : Error) : String :=
  match e.code? with
  | some code => "Error [" ++ code ++ "]: "
  | none => "Error: "

theorem describe_eq (e : Error) :
    e.describe = e.heading ++ e.message ++ if e.isLifecycle then hint else "" := by
  unfold describe heading
  cases e.code? <;> rfl

theorem shownBehind_heading (e : Error) : e.ShownBehind e.heading := by
  constructor
  · intro huntimely
    rw [describe_eq, if_pos (isLifecycle_iff.mpr huntimely)]
  · intro htimely
    rw [describe_eq, if_neg (mt isLifecycle_iff.mp htimely), String.append_empty]

end Error

/-- A line starts the interpreter with a text for its context that is no JSON. -/
def MistypesContext (line text : String) : Prop :=
  (∃ state, Request.ofLine? line = some (.start state (some text))) ∧ Value.parse? text = none

theorem enter_of_mistypesContext {line text : String} (h : MistypesContext line text)
    (s : Session) :
    s.enter diag line = (s, .failed (.malformedContext (diag.context text))) := by
  obtain ⟨⟨state, hline⟩, hparse⟩ := h
  rw [enter_of_ofLine? hline]
  exact startWith_of_parse?_eq_none s state hparse

/-- What a request fails with is an error of its context, or found by the checks of a call. -/
theorem Recorded.cause_of_failed {s : Session} (h : s.Recorded) {r : Request} {e : Error}
    (he : (s.execute diag r).2 = .failed e) :
    (∃ state text, r = .start state (some text) ∧ Value.parse? text = none ∧
        e = .malformedContext (diag.context text)) ∨
      ∃ op e', s.interpreter.fault? op = some e' ∧ e = .interpreter e' := by
  cases r with
  | start state context =>
    change (s.startWith diag state context).2 = .failed e at he
    rcases malformed_or_exists_given context with ⟨text, rfl, hparse⟩ | ⟨given, hgiven⟩
    · rw [startWith_of_parse?_eq_none s state hparse] at he
      cases he
      exact .inl ⟨state, text, rfl, hparse, rfl⟩
    · -- the observer of a session never fails, which leaves the checks of the start
      rw [startWith_of_parse? s state hgiven] at he
      obtain ⟨e', rfl, herror⟩ := error?_of_conclude he
      rw [error?_startScript] at herror
      exact .inr ⟨_, e', h.fault?_of_error herror, rfl⟩
  | send types =>
    obtain ⟨e', rfl, herror⟩ := sendAll_of_sendTypes he
    -- an event and a stop are checked alike, and there may be no first event to name
    exact .inr ⟨.stop, e', h.runFault?_of_sendAll herror, rfl⟩
  | stop =>
    obtain ⟨e', rfl, herror⟩ := error?_of_conclude he
    exact .inr ⟨.stop, e', h.fault?_of_error herror, rfl⟩
  | _ => cases he

theorem cause_of_failed_line (m : Machine) (before : List String) {line : String} {e : Error}
    (he : (((new m).enterAll diag before).enter diag line).2 = .failed e) :
    (∃ text, MistypesContext line text ∧ e = .malformedContext (diag.context text)) ∨
      ∃ e', e'.code ∈ callCodes ∧ e = .interpreter e' := by
  cases hline : Request.ofLine? line with
  | none =>
    rw [enter_of_ofLine?_eq_none hline] at he
    cases he
  | some r =>
    rw [enter_of_ofLine? hline] at he
    rcases (recorded_enterAll m before).cause_of_failed he with
      ⟨state, text, rfl, hparse, rfl⟩ | ⟨op, e', hfault, rfl⟩
    · exact .inl ⟨text, ⟨⟨state, hline⟩, hparse⟩, rfl⟩
    · exact .inr ⟨e', Interpreter.code_mem_of_fault? hfault, rfl⟩

end Session

/-! ## What is shown -/

/-- The failure of a command, whatever its arguments and the files are, has one of the codes of that
command and is shown with it, in front of its message. The failure of a line, whatever machine the
session is about and whatever lines came before, has the code of a call that came at the wrong time or
named no state, and is shown with it. Only that of a start whose context is no JSON has no code and is
shown without one; such a line always fails, with the words of the parser. The hint follows exactly if
it was the time. -/
theorem failures_carry_codes (diag : Diagnostics) (files : Files) (m : Machine)
    (before : List String) (line : String) :
    (∀ (c : Command) (f : Failure), c.execute diag files = .error f →
      f.code ∈ c.codes ∧
      CommandLine.commandExit diag files c =
        { code := 1, err := some ("Error [" ++ f.code ++ "]: " ++ f.message) }) ∧
    let s := (Session.new m).enterAll diag before
    (∀ e, (s.enter diag line).2 = .failed e →
      (e.code? = none ↔ ∃ text, Session.MistypesContext line text) ∧
      (∀ code, e.code? = some code →
        code ∈ callCodes ∧ e.ShownBehind ("Error [" ++ code ++ "]: ")) ∧
      (e.code? = none → e.ShownBehind "Error: ")) ∧
    (∀ text, Session.MistypesContext line text →
      (s.enter diag line).2 = .failed (.malformedContext (diag.context text))) := by
  refine ⟨?_, ?_, ?_⟩
  · intro c f hf
    refine ⟨Command.code_mem_codes hf, ?_⟩
    rw [CommandLine.commandExit, hf]
    rfl
  · intro e he
    have hshown := e.shownBehind_heading
    rcases Session.cause_of_failed_line m before he with
      ⟨text, hmistyped, rfl⟩ | ⟨e', hcode, rfl⟩
    · exact ⟨⟨fun _ => ⟨text, hmistyped⟩, fun _ => rfl⟩, nofun, fun _ => hshown⟩
    · refine ⟨⟨nofun, ?_⟩, ?_, nofun⟩
      · rintro ⟨text, hmistyped⟩
        rw [Session.enter_of_mistypesContext hmistyped] at he
        cases he
      · rintro code ⟨⟩
        exact ⟨hcode, hshown⟩
  · intro text hmistyped
    rw [Session.enter_of_mistypesContext hmistyped]

/-- A definition whose file is missing and one whose file is empty, an order that is paid before it
is started, started in a state that it does not have, and started with a context that breaks off. -/
theorem failures_carry_codes_order :
    let diag := { Session.brokenOff with
      definition := fun _ => "EOF while parsing a value at line 1 column 0" }
    let files : Files := fun name => if name = "empty.json" then .ok "" else .error .notFound
    let s := Session.new Machine.order
    (CommandLine.commandExit diag files (.validate "order.json")).err =
        some ("Error [IO_ERROR]: " ++
          "I/O error reading 'order.json': No such file or directory (os error 2)") ∧
      (CommandLine.commandExit diag files (.validate "empty.json")).err =
        some ("Error [INVALID_JSON]: " ++ "machine definition error: " ++
          "JSON error: EOF while parsing a value at line 1 column 0") ∧
      (s.enter diag "send PAY").2 = .failed (.interpreter (.notRunning .idle)) ∧
      (Session.Error.interpreter (.notRunning .idle)).describe =
        "Error [NOT_RUNNING]: interpreter is not running (status: idle)" ++
          "\n  (use 'start' to begin, or 'reset' for a fresh interpreter)" ∧
      (s.enter diag "start nowhere").2 = .failed (.interpreter (.unknownState "nowhere")) ∧
      (Session.Error.interpreter (.unknownState "nowhere")).describe =
        "Error [STATE_NOT_FOUND]: state not found: nowhere" ∧
      (s.enter diag "start active \x7b").2 =
        .failed (.malformedContext "EOF while parsing an object at line 1 column 1") := by
  intro diag files s
  have hmissing : (Command.validate "order.json").execute diag files =
      .error (.file "order.json" .notFound) := by decide +kernel
  have hempty : (Command.validate "empty.json").execute diag files =
      .error (.definition (.malformed "EOF while parsing a value at line 1 column 0")) := by
    decide +kernel
  have hsend : (s.enter diag "send PAY").2 = .failed (.interpreter (.notRunning .idle)) := by
    decide +kernel
  have hstart : (s.enter diag "start nowhere").2 =
      .failed (.interpreter (.unknownState "nowhere")) := by
    decide +kernel
  have htimely : ¬ (Session.Error.interpreter (.unknownState "nowhere")).Untimely := nofun
  have hmistyped : Session.MistypesContext "start active \x7b" "\x7b" :=
    ⟨⟨some "active", by decide +kernel⟩, by decide +kernel⟩
  obtain ⟨hcommands, hlate, -⟩ := failures_carry_codes diag files Machine.order [] "send PAY"
  obtain ⟨-, hnowhere, -⟩ := failures_carry_codes diag files Machine.order [] "start nowhere"
  obtain ⟨-, -, hbroken⟩ := failures_carry_codes diag files Machine.order [] "start active \x7b"
  obtain ⟨-, hmissingExit⟩ := hcommands (.validate "order.json") _ hmissing
  obtain ⟨-, hemptyExit⟩ := hcommands (.validate "empty.json") _ hempty
  obtain ⟨-, hhinted⟩ := (hlate _ hsend).2.1 "NOT_RUNNING" rfl
  obtain ⟨-, hbare⟩ := (hnowhere _ hstart).2.1 "STATE_NOT_FOUND" rfl
  refine ⟨?_, ?_, hsend, ?_, hstart, ?_, ?_⟩
  · rw [hmissingExit]
    decide +kernel
  · rw [hemptyExit]
    decide +kernel
  · rw [hhinted.untimely (.inr ⟨.idle, rfl⟩)]
    decide +kernel
  · rw [hbare.timely htimely]
    decide +kernel
  · exact hbroken "\x7b" hmistyped

/-- A context that breaks off is refused without a code. -/
theorem failure_without_code_order :
    let s := Session.new Machine.order
    ∃ e, (s.enter Session.brokenOff "start \x7b").2 = .failed e ∧ e.code? = none ∧
      e.describe = "Error: EOF while parsing an object at line 1 column 1" := by
  intro s
  exact ⟨.malformedContext "EOF while parsing an object at line 1 column 1", by decide +kernel, rfl,
    by decide +kernel⟩

end Statechart
