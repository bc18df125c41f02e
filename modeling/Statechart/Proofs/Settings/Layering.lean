import Statechart.Proofs.FrontEnds
import Statechart.Proofs.Text.Lowercase
/-!
The layers of the settings. Loading puts all of the environment over all of the file over all of the
defaults at once; here each setting is followed by itself, from its own variable down to its default,
and the values that a variable takes are said without the general lower case. Main statement: what comes
of loading is what the single settings say, a file that cannot be used ends it before anything else, and
only the settings that come out are checked.
-/

namespace Statechart.Settings

/-! ## What variables say -/

/-- A value that switches on: `1`, or `true` in any case. -/
def SwitchesOn (text : String) : Prop := text = "1" ∨ Text.AnyCase "true" text

theorem isOn_iff {text : String} : isOn text = true ↔ SwitchesOn text := by
  have htrue : Text.IsPlainWord "true" := by decide
  simp [isOn, SwitchesOn, Text.lowercase_eq_iff htrue]

theorem formatNamed?_eq_some_iff {text : String} {f : Report.Format} :
    formatNamed? text = some f ↔ Text.AnyCase f.name text := by
  have hplain : Text.IsPlainWord f.name := by
    cases f <;> decide
  rw [← Text.lowercase_eq_iff hplain]
  unfold formatNamed?
  split
  · next heq => cases f <;> simp [heq, Report.Format.name]
  · next heq => cases f <;> simp [heq, Report.Format.name]
  · next hjson htext =>
    cases f
    · simpa [Report.Format.name] using htext
    · simpa [Report.Format.name] using hjson

/-! ## One setting -/

section

variable {α : Type} {gives : String → α → Prop} {var : Option String} {file : Option α} {std a : α}

/-- A variable that is not set, or to nothing that gives its setting a value. -/
def Unused (gives : String → α → Prop) (var : Option String) : Prop :=
  ∀ text, var = some text → ∀ a, ¬ gives text a

/-- What a setting is, by its variable, the file and the default. The variable counts if it is set to
something that gives the setting a value, and else the file if it has the setting. -/
inductive Prevails (gives : String → α → Prop) (var : Option String) (file : Option α) (std : α) :
    α → Prop
  | byVariable {text : String} {a : α} (hset : var = some text) (hgives : gives text a) :
      Prevails gives var file std a
  | byFile {a : α} (hunused : Unused gives var) (hfile : file = some a) :
      Prevails gives var file std a
  | byDefault (hunused : Unused gives var) (hfile : file = none) : Prevails gives var file std std

variable {read? : String → Option α}

theorem unused_iff (hread : ∀ text a, read? text = some a ↔ gives text a) :
    Unused gives var ↔ var.bind read? = none := by
  rw [Option.bind_eq_none_iff]
  constructor
  · intro hunused text hset
    rw [Option.eq_none_iff_forall_ne_some]
    intro a ha
    exact hunused text hset a ((hread text a).mp ha)
  · intro hnone text hset a hgives
    rw [← hread, hnone text hset] at hgives
    cases hgives

/-- A setting whose variable is read by a function. -/
theorem prevails_iff (hread : ∀ text a, read? text = some a ↔ gives text a) :
    Prevails gives var file std a ↔ a = (var.bind read?).getD (file.getD std) := by
  constructor
  · intro h
    cases h with
    | byVariable hset hgives => simp [hset, (hread _ _).mpr hgives]
    | byFile hunused hfile => simp [(unused_iff hread).mp hunused, hfile]
    | byDefault hunused hfile => simp [(unused_iff hread).mp hunused, hfile]
  · rintro rfl
    cases hvar : var.bind read? with
    | some b =>
      obtain ⟨text, hset, hb⟩ := Option.bind_eq_some_iff.mp hvar
      exact .byVariable hset ((hread text b).mp hb)
    | none =>
      have hunused := (unused_iff hread).mpr hvar
      cases hfile : file with
      | some b => exact .byFile hunused rfl
      | none => exact .byDefault hunused rfl

end

/-! ## All settings -/

/-- Every setting is what prevails among its own variable, its place in the file and its default. No
variable switches the built-in script. -/
structure Layered (env : Environment) (file : Layer) (s : Settings) : Prop where
  definition : Prevails (fun text a => text ≠ "" ∧ a = text) (env "SUBSTATE_MACHINE")
    file.definition "builtin:subscription" s.definition
  script : Prevails (fun text a => a = some text) (env "SUBSTATE_SCRIPT") file.script none s.script
  builtin : s.builtin = file.builtin.getD true
  stopOnError : Prevails (fun text a => a = true ↔ SwitchesOn text) (env "SUBSTATE_STOP_ON_ERROR")
    file.stopOnError true s.stopOnError
  format : Prevails (fun text a => Text.AnyCase a.name text) (env "SUBSTATE_OUTPUT")
    file.format .text s.format
  showContext : Prevails (fun text a => a = true ↔ SwitchesOn text) (env "SUBSTATE_SHOW_CONTEXT")
    file.showContext false s.showContext

variable {env env' : Environment} {file : Layer} {s t : Settings}

theorem prevails_switch_iff {var : Option String} {file : Option Bool} {std a : Bool} :
    Prevails (fun text a => a = true ↔ SwitchesOn text) var file std a ↔
      a = (var.map isOn).getD (file.getD std) := by
  have hread : ∀ (text : String) (a : Bool),
      (some ∘ isOn) text = some a ↔ (a = true ↔ SwitchesOn text) := by
    intro text a
    rw [← isOn_iff, Function.comp_apply, Option.some.injEq, eq_comm]
    exact Bool.eq_iff_iff
  rw [prevails_iff hread]
  cases var <;> rfl

theorem prevails_definition_iff {var file : Option String} {std a : String} :
    Prevails (fun text a => text ≠ "" ∧ a = text) var file std a ↔
      a = (var.filter (fun v => v != "")).getD (file.getD std) := by
  have hread : ∀ text a : String,
      Option.guard (fun v => v != "") text = some a ↔ text ≠ "" ∧ a = text := by
    intro text a
    rw [Option.guard_eq_some_iff, bne_iff_ne, and_comm, eq_comm]
  rw [prevails_iff hread, Option.bind_guard]

theorem prevails_script_iff {var : Option String} {file : Option (Option String)}
    {std a : Option String} :
    Prevails (fun text a => a = some text) var file std a ↔
      a = (var.map some).getD (file.getD std) := by
  have hread : ∀ (text : String) (a : Option String), (some ∘ some) text = some a ↔ a = some text := by
    intro text a
    rw [Function.comp_apply, Option.some.injEq, eq_comm]
  rw [prevails_iff hread]
  cases var <;> rfl

theorem prevails_format_iff {var : Option String} {file : Option Report.Format}
    {std a : Report.Format} :
    Prevails (fun text a => Text.AnyCase a.name text) var file std a ↔
      a = (var.bind formatNamed?).getD (file.getD std) :=
  prevails_iff fun _ _ => formatNamed?_eq_some_iff

/-- The layers put over each other as a whole are the settings followed one by one. -/
theorem layered_iff : Layered env file s ↔ s = (Layer.ofEnvironment env).over (file.over {}) := by
  constructor
  · intro h
    cases s
    simp only [Layer.over, Layer.ofEnvironment, Settings.mk.injEq]
    exact ⟨prevails_definition_iff.mp h.definition, prevails_script_iff.mp h.script, h.builtin,
      prevails_switch_iff.mp h.stopOnError, prevails_format_iff.mp h.format,
      prevails_switch_iff.mp h.showContext⟩
  · rintro rfl
    exact ⟨prevails_definition_iff.mpr rfl, prevails_script_iff.mpr rfl, rfl,
      prevails_switch_iff.mpr rfl, prevails_format_iff.mpr rfl, prevails_switch_iff.mpr rfl⟩

/-- Settings that agree in every setting but the one that a variable may have. -/
structure AgreeBeside (name : String) (s t : Settings) : Prop where
  definition : name ≠ "SUBSTATE_MACHINE" → t.definition = s.definition
  script : name ≠ "SUBSTATE_SCRIPT" → t.script = s.script
  builtin : t.builtin = s.builtin
  stopOnError : name ≠ "SUBSTATE_STOP_ON_ERROR" → t.stopOnError = s.stopOnError
  format : name ≠ "SUBSTATE_OUTPUT" → t.format = s.format
  showContext : name ≠ "SUBSTATE_SHOW_CONTEXT" → t.showContext = s.showContext

/-- A variable makes no difference to a setting that is not its own. -/
theorem Layered.agreeBeside {name : String} (h : Layered env file s) (h' : Layered env' file t)
    (hothers : ∀ other, other ≠ name → env' other = env other) : AgreeBeside name s t := by
  have hsame : ∀ {other}, name ≠ other → env' other = env other := fun hne => hothers _ hne.symm
  rw [layered_iff.mp h, layered_iff.mp h']
  constructor
  case builtin => rfl
  all_goals
    intro hne
    simp only [Layer.over, Layer.ofEnvironment, hsame hne]

/-! ## Loading -/

variable {diag : Diagnostics} {files : Files}

/-- The settings file that the environment names cannot be read, or is no settings file. -/
inductive Unusable (diag : Diagnostics) (env : Environment) (files : Files) : Error → Prop
  | unreadable {name : String} {fault : FileFault} (hname : env "SUBSTATE_CONFIG" = some name)
      (hfault : files name = .error fault) : Unusable diag env files (.file name fault)
  | malformed {name text : String} (hname : env "SUBSTATE_CONFIG" = some name)
      (htext : files name = .ok text) (hparse : Layer.parse? text = none) :
      Unusable diag env files (.malformed name (diag.settings text))

/-- The layer of the settings file that the environment names; if it names none, all is left open. -/
inductive FileLayer (env : Environment) (files : Files) : Layer → Prop
  | unnamed (hname : env "SUBSTATE_CONFIG" = none) : FileLayer env files {}
  | named {name text : String} {file : Layer} (hname : env "SUBSTATE_CONFIG" = some name)
      (htext : files name = .ok text) (hparse : Layer.parse? text = some file) :
      FileLayer env files file

theorem unusable_or_fileLayer (diag : Diagnostics) (env : Environment) (files : Files) :
    (∃ e, Unusable diag env files e) ∨ ∃ file, FileLayer env files file := by
  cases hname : env "SUBSTATE_CONFIG" with
  | none => exact .inr ⟨_, .unnamed hname⟩
  | some name =>
    cases hread : files name with
    | error fault => exact .inl ⟨_, .unreadable hname hread⟩
    | ok text =>
      cases hparse : Layer.parse? text with
      | none => exact .inl ⟨_, .malformed hname hread hparse⟩
      | some file => exact .inr ⟨_, .named hname hread hparse⟩

theorem FileLayer.congr (h : FileLayer env files file)
    (hname : env' "SUBSTATE_CONFIG" = env "SUBSTATE_CONFIG") : FileLayer env' files file := by
  cases h with
  | unnamed hnone => exact .unnamed (hname.trans hnone)
  | named hsome htext hparse => exact .named (hname.trans hsome) htext hparse

/-- The two are exclusive. -/
theorem FileLayer.not_unusable (h : FileLayer env files file) :
    ¬ ∃ e, Unusable diag env files e := by
  rintro ⟨e, hunusable⟩
  cases h with
  | unnamed hnone =>
    cases hunusable with
    | unreadable hname _ | malformed hname _ _ =>
      rw [hnone] at hname
      cases hname
  | named hsome htext hparse =>
    cases hunusable with
    | unreadable hname hfault =>
      cases hsome.symm.trans hname
      cases htext.symm.trans hfault
    | malformed hname htext' hnone =>
      cases hsome.symm.trans hname
      cases htext.symm.trans htext'
      cases hparse.symm.trans hnone

theorem Unusable.load {e : Error} (h : Unusable diag env files e) :
    load diag env files = .error e := by
  cases h with
  | unreadable hname hfault =>
    simp only [Settings.load, hname, Layer.ofFile, hfault]
    rfl
  | malformed hname htext hparse =>
    simp only [Settings.load, hname, Layer.ofFile, htext, hparse]
    rfl

theorem Unusable.kind {e : Error} (h : Unusable diag env files e) :
    e.kind = "IoError" ∨ e.kind = "ParseError" := by
  cases h with
  | unreadable => exact .inl rfl
  | malformed => exact .inr rfl

/-- With a file that can be used, loading gives the settings that the layers make together, unless
these lack something. -/
theorem FileLayer.load (h : FileLayer env files file) (hs : Layered env file s) :
    load diag env files = match s.lack? with
      | some lack => .error (.lacking lack)
      | none => .ok s := by
  have hload : Settings.load diag env files = (s.validate).map fun _ => s := by
    rw [layered_iff.mp hs]
    cases h with
    | unnamed hname =>
      simp only [Settings.load, hname]
      rfl
    | named hname htext hparse =>
      simp only [Settings.load, hname, Layer.ofFile, htext, hparse]
      rfl
  rw [hload, validate]
  cases s.lack? <;> rfl

/-- What settings lack: their machine has a blank source, or they have neither a script nor leave to
run the built-in one. -/
def Lacks (s : Settings) : Lack → Prop
  | .definition => ∀ c ∈ s.definition.toList, Text.isBlank c = true
  | .script => s.script = none ∧ s.builtin = false

/-- Of two lacks that of the machine is the one that is reported. -/
theorem lack?_eq_some_iff {lack : Lack} :
    s.lack? = some lack ↔ s.Lacks lack ∧ (lack = .script → ¬ s.Lacks .definition) := by
  have hblank : Text.allBlank s.definition = true ↔ s.Lacks .definition := List.all_eq_true
  have hscript : (s.script.isNone && !s.builtin) = true ↔ s.Lacks .script := by
    simp [Lacks]
  unfold lack?
  by_cases hdefinition : s.Lacks .definition
  · rw [if_pos (hblank.mpr hdefinition)]
    cases lack <;> simp [hdefinition]
  · rw [if_neg (fun h => hdefinition (hblank.mp h))]
    by_cases hlacking : s.Lacks .script
    · rw [if_pos (hscript.mpr hlacking)]
      cases lack <;> simp [hdefinition, hlacking]
    · rw [if_neg (fun h => hlacking (hscript.mp h))]
      cases lack <;> simp [hdefinition, hlacking]

theorem lack?_eq_none_iff : s.lack? = none ↔ ∀ lack, ¬ s.Lacks lack := by
  constructor
  · intro hnone
    have hdefinition : ¬ s.Lacks .definition := by
      intro hlacks
      rw [lack?_eq_some_iff.mpr ⟨hlacks, nofun⟩] at hnone
      cases hnone
    intro lack
    cases lack with
    | definition => exact hdefinition
    | script =>
      intro hlacks
      rw [lack?_eq_some_iff.mpr ⟨hlacks, fun _ => hdefinition⟩] at hnone
      cases hnone
  · intro hnone
    rw [Option.eq_none_iff_forall_ne_some]
    intro lack hlack
    exact hnone lack (lack?_eq_some_iff.mp hlack).1

/-- Loading fails over the settings file exactly if the environment names one and it cannot be read or
is no settings file, whatever else the environment says. Otherwise there is a layer for the file, and
the settings are determined, each by its own variable, else by the file, else by its default: those that
come out are loaded if they name a machine and a script, and refused if they lack one of the two. No
variable makes a difference to a setting that is not its own. -/
theorem load_layered (diag : Diagnostics) (env : Environment) (files : Files) :
    (∀ e, load diag env files = .error e ∧ (e.kind = "IoError" ∨ e.kind = "ParseError") ↔
      Unusable diag env files e) ∧
      ((¬ ∃ e, Unusable diag env files e) ↔ ∃ file, FileLayer env files file) ∧
      ∀ file, FileLayer env files file → ∃ s, Layered env file s ∧
        (∀ t, Layered env file t → t = s) ∧
        (∀ lack, load diag env files = .error (.lacking lack) ↔
          s.Lacks lack ∧ (lack = .script → ¬ s.Lacks .definition)) ∧
        (load diag env files = .ok s ↔ ∀ lack, ¬ s.Lacks lack) ∧
        ∀ name env', name ≠ "SUBSTATE_CONFIG" → (∀ other, other ≠ name → env' other = env other) →
          FileLayer env' files file ∧ ∀ t, Layered env' file t → AgreeBeside name s t := by
  refine ⟨?_, ?_, ?_⟩
  · intro e
    constructor
    · intro hboth
      obtain ⟨he, hkind⟩ := hboth
      rcases unusable_or_fileLayer diag env files with ⟨e', hunusable⟩ | ⟨file, hfile⟩
      · rw [hunusable.load, Except.error.injEq] at he
        rwa [← he]
      · -- with the file read, only what the settings lack can be wrong
        rw [hfile.load (layered_iff.mpr rfl)] at he
        split at he
        · cases he
          simp [Error.kind] at hkind
        · cases he
    · intro hunusable
      exact ⟨hunusable.load, hunusable.kind⟩
  · constructor
    · exact (unusable_or_fileLayer diag env files).resolve_left
    · intro hexists
      obtain ⟨file, hfile⟩ := hexists
      exact hfile.not_unusable
  · intro file hfile
    have hlayered : Layered env file ((Layer.ofEnvironment env).over (file.over {})) :=
      layered_iff.mpr rfl
    refine ⟨_, hlayered, fun t ht => layered_iff.mp ht, ?_, ?_, ?_⟩
    · intro lack
      rw [← lack?_eq_some_iff, hfile.load hlayered]
      split
      · next hlack => simp [hlack]
      · next hnone => simp [hnone]
    · rw [← lack?_eq_none_iff, hfile.load hlayered]
      split
      · next hlack => simp [hlack]
      · next hnone => simp [hnone]
    · intro name env' hname hothers
      exact ⟨hfile.congr (hothers _ hname.symm), fun t ht => hlayered.agreeBeside ht hothers⟩

/-- A settings file that names a machine, but leaves no script. Alone it is refused. Below an environment
that names a script, writes its format in other letters and has an empty source of a machine, the file
decides over the machine and the context. Without the file nothing else counts. -/
theorem load_layered_door :
    let text := "machine:\n  definition: door.json\nscript:\n  builtin: false\n" ++
      "output:\n  show_context: true\n"
    let files : Files := fun name => if name = "run.yaml" then .ok text else .error .notFound
    let env : Environment := fun name =>
      [("SUBSTATE_CONFIG", "run.yaml"), ("SUBSTATE_MACHINE", ""), ("SUBSTATE_SCRIPT", "knock.json"),
        ("SUBSTATE_STOP_ON_ERROR", "yes"), ("SUBSTATE_OUTPUT", "Json")].lookup name
    let bare : Environment := fun name => [("SUBSTATE_CONFIG", "run.yaml")].lookup name
    let astray : Environment := fun name =>
      [("SUBSTATE_CONFIG", "gone.yaml"), ("SUBSTATE_MACHINE", " ")].lookup name
    load default env files = .ok ⟨"door.json", some "knock.json", false, false, .json, true⟩ ∧
      load default bare files = .error (.lacking .script) ∧
      load default astray files = .error (.file "gone.yaml" .notFound) := by
  intro text files env bare astray
  let file : Layer :=
    { definition := some "door.json", builtin := some false, showContext := some true }
  have hparse : Layer.parse? text = some file := by decide +kernel
  have hnamed : ¬ ∀ c ∈ "door.json".toList, Text.isBlank c = true := by
    intro hblank
    have hd : Text.isBlank 'd' = true := hblank 'd' (by decide)
    cases hd
  refine ⟨?_, ?_, ?_⟩
  · obtain ⟨s, -, hunique, -, hloads, -⟩ :=
      (load_layered default env files).2.2 file (.named rfl rfl hparse)
    have hs : ⟨"door.json", some "knock.json", false, false, .json, true⟩ = s :=
      hunique _ (layered_iff.mpr (by decide +kernel))
    subst hs
    apply hloads.mpr
    intro lack
    cases lack with
    | definition => exact hnamed
    | script => exact fun hlacks => nomatch hlacks.1
  · obtain ⟨s, -, hunique, hrefuses, -⟩ :=
      (load_layered default bare files).2.2 file (.named rfl rfl hparse)
    have hs : ⟨"door.json", none, false, true, .text, true⟩ = s :=
      hunique _ (layered_iff.mpr (by decide +kernel))
    subst hs
    exact (hrefuses .script).mpr ⟨⟨rfl, rfl⟩, fun _ => hnamed⟩
  · exact (((load_layered default astray files).1 _).mpr (.unreadable rfl rfl)).1

end Statechart.Settings
