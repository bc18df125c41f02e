import Statechart.ScriptedRun
import Statechart.Proofs.Run.FailureMode
/-!
The two ways to run a script from outside: the scripted runner, which takes what it is asked from the
environment, and the command that is given it. Main statement: asked the same they do the same, and
what failing events do to a run plays no part in either, since nobody observes these runs.
-/

namespace Statechart

/-- The name of a format. -/
def Report.Format.name : Format → String
  | text => "text"
  | json => "json"

namespace RunRequest

/-- What failing events would do makes no difference to a run that is asked for. -/
theorem perform_congr (diag : Diagnostics) (files : Files) (machine : String)
    (script : Option String) (style : Report.Style) (mode mode' : OnFailure) :
    perform diag files ⟨machine, script, style, mode⟩ =
      perform diag files ⟨machine, script, style, mode'⟩ := by
  simp only [perform, Machine.run_silent_congr _ _ mode mode']

end RunRequest

namespace Settings

variable {diag : Diagnostics} {env : Environment} {files : Files}

/-- Settings with a machine and a script lack nothing. -/
theorem validate_of_builtin {s : Settings} (hblank : Text.allBlank s.definition = false)
    (hbuiltin : s.builtin = true) : s.validate = .ok () := by
  rw [validate, lack?, hblank, hbuiltin, Bool.not_true, Bool.and_false]
  rfl

/-- Without a settings file the settings are those of the environment over the defaults, unless they
lack something. -/
theorem load_of_config_eq_none (hconfig : env "SUBSTATE_CONFIG" = none)
    (hvalid : ((Layer.ofEnvironment env).over {}).validate = .ok ()) :
    load diag env files = .ok ((Layer.ofEnvironment env).over {}) := by
  simp only [load, hconfig]
  show (do ((Layer.ofEnvironment env).over {}).validate; _) = _
  rw [hvalid]
  rfl

end Settings

namespace ScriptedRun

/-- The environment asks for a run: there is no settings file, and every setting of the run has its
variable. The variable that says what failing events do may hold anything. -/
structure Asks (env : Environment) (machine : String) (script : Option String)
    (style : Report.Style) : Prop where
  config : env "SUBSTATE_CONFIG" = none
  machine : env "SUBSTATE_MACHINE" = some machine
  script : env "SUBSTATE_SCRIPT" = script
  output : env "SUBSTATE_OUTPUT" = some style.format.name
  showContext : env "SUBSTATE_SHOW_CONTEXT" = if style.showContext then some "1" else none

variable {diag : Diagnostics} {env : Environment} {files : Files}
variable {machine : String} {script : Option String} {style : Report.Style}

theorem formatNamed?_name (f : Report.Format) : Settings.formatNamed? f.name = some f := by
  cases f <;> decide +kernel

/-- What an environment asks for is in its settings. -/
theorem settings_of_asks (h : Asks env machine script style)
    (hblank : Text.allBlank machine = false) (diag : Diagnostics) (files : Files) :
    ∃ stopOnError, settings diag env files =
      .ok ⟨machine, script, true, stopOnError, style.format, style.showContext⟩ := by
  have hnamed : (some machine).filter (fun v => v != "") = some machine := by
    have hne : machine ≠ "" := by
      rintro rfl
      cases hblank
    rw [Option.filter_some, if_pos (bne_iff_ne.mpr hne)]
  have hlayer : (Settings.Layer.ofEnvironment env).over {} =
      ⟨machine, script, true, ((env "SUBSTATE_STOP_ON_ERROR").map Settings.isOn).getD true,
        style.format, style.showContext⟩ := by
    rw [Settings.Layer.ofEnvironment, h.machine, h.script, h.output, h.showContext,
      hnamed, Option.bind_some, formatNamed?_name]
    cases script <;> cases style.showContext <;> rfl
  have hvalid : ((Settings.Layer.ofEnvironment env).over {}).validate = .ok () := by
    rw [hlayer]
    exact Settings.validate_of_builtin hblank rfl
  refine ⟨((env "SUBSTATE_STOP_ON_ERROR").map Settings.isOn).getD true, ?_⟩
  rw [settings, Settings.load_of_config_eq_none h.config hvalid, hlayer]

/-- With settings for it a run prints its report and exits with 0. -/
theorem run_of_perform_ok {s : Settings} {report : Report}
    (hsettings : settings diag env files = .ok s)
    (hreport : (request s).perform diag files = .ok report) :
    run diag env files = { code := 0, out := report.render s.style } := by
  simp only [run, hsettings, hreport]

/-- A run that fails exits with 1 and prints nothing. -/
theorem run_of_perform_error {s : Settings} {e : Failure}
    (hsettings : settings diag env files = .ok s)
    (he : (request s).perform diag files = .error e) :
    run diag env files = { code := 1 } := by
  simp only [run, hsettings, he]

/-- The scripted runner and the run command, asked for the same run, do the same on all files: the
runner exits with 0 if and only if the command succeeds, and then the text of the command is what the
runner prints, without the blanks at the end. Otherwise the runner exits with 1 and prints nothing.
What either would do about failing events is not part of what they are asked. -/
theorem frontEnds_agree (diag : Diagnostics) (h : Asks env machine script style)
    (hblank : ∃ c ∈ machine.toList, Text.isBlank c = false) (files : Files) (mode : OnFailure) :
    let exit := run diag env files
    let answer := (Command.run ⟨machine, script, style, mode⟩).execute diag files
    (exit.code = 0 ↔ ∃ text, answer = .ok text) ∧
      (∀ text, answer = .ok text → text = Text.trimEnd exit.out) ∧
      ((∀ text, answer ≠ .ok text) → exit.code = 1 ∧ exit.out = "") := by
  intro exit answer
  have hblank : Text.allBlank machine = false := by
    obtain ⟨c, hc, hnot⟩ := hblank
    exact List.all_eq_false.mpr ⟨c, hc, by rw [hnot]; exact Bool.false_ne_true⟩
  obtain ⟨stopOnError, hsettings⟩ := settings_of_asks h hblank diag files
  have hmode : (request ⟨machine, script, true, stopOnError, style.format,
      style.showContext⟩).perform diag files =
        RunRequest.perform diag files ⟨machine, script, style, mode⟩ :=
    RunRequest.perform_congr diag files machine script style _ mode
  have hanswer : answer = (RunRequest.perform diag files ⟨machine, script, style, mode⟩).map
      fun report => Text.trimEnd (report.render style) := rfl
  rw [hanswer]
  cases hperform : RunRequest.perform diag files ⟨machine, script, style, mode⟩ with
  | ok report =>
    have hexit : exit = _ := run_of_perform_ok hsettings (hmode.trans hperform)
    rw [hexit]
    refine ⟨⟨fun _ => ⟨_, rfl⟩, fun _ => rfl⟩, ?_, fun hfails => absurd rfl (hfails _)⟩
    rintro text ⟨⟩
    rfl
  | error e =>
    have hexit : exit = _ := run_of_perform_error hsettings (hmode.trans hperform)
    rw [hexit]
    exact ⟨⟨nofun, nofun⟩, nofun, fun _ => ⟨rfl, rfl⟩⟩

/-- A knock on a door that takes no notice of it, asked for as JSON. -/
theorem frontEnds_agree_door :
    let env : Environment := fun name =>
      [("SUBSTATE_MACHINE", "door.json"), ("SUBSTATE_SCRIPT", "knock.json"),
        ("SUBSTATE_OUTPUT", "json"), ("SUBSTATE_STOP_ON_ERROR", "no")].lookup name
    let files : Files := fun name =>
      match name with
      | "door.json" => .ok "\x7b\"id\":\"door\"\x7d"
      | "knock.json" => .ok "\x7b\"events\":[\"KNOCK\"]\x7d"
      | _ => .error .notFound
    let style : Report.Style := ⟨.json, false⟩
    let command : Command := .run ⟨"door.json", some "knock.json", style, .keepGoing⟩
    Asks env "door.json" (some "knock.json") style ∧ (run default env files).code = 0 ∧
      ∃ text, command.execute default files = .ok text ∧
        text = Text.trimEnd (run default env files).out := by
  intro env files style command
  have hasks : Asks env "door.json" (some "knock.json") style := ⟨rfl, rfl, rfl, rfl, rfl⟩
  have hnot : Text.isBlank 'd' = false := by decide
  have hmem : 'd' ∈ "door.json".toList := by decide
  obtain ⟨hcode, htext, -⟩ := frontEnds_agree default hasks ⟨'d', hmem, hnot⟩ files .keepGoing
  have hsucceeds : (command.execute default files).isOk = true := by decide +kernel
  obtain ⟨text, hok⟩ : ∃ text, command.execute default files = .ok text := by
    cases hanswer : command.execute default files with
    | ok text => exact ⟨text, rfl⟩
    | error e =>
      rw [hanswer] at hsucceeds
      cases hsucceeds
  exact ⟨hasks, hcode.mpr ⟨text, hok⟩, text, hok, htext text hok⟩

end ScriptedRun

end Statechart
