import Statechart.Proofs.Json.Spacing
import Statechart.Proofs.Session.Lines
/-!
Contexts that are typed behind a start. A line is cut into words before anything else, and the words
of a context are put together again with single spaces between them, also where a run of blanks stands
inside a string. Main statement: the start succeeds and its context is what was typed with each such
run become one space, so that it arrives as it was typed exactly if there was nothing to be lost.
-/

namespace Statechart.Session

open Json (Value Document)

/-! ## The line -/

/-- The line that starts a session with a context, in a given state or in the initial one. -/
def contextLine (state : Option String) (context : Value) : String :=
  "start " ++ state.elim "" (· ++ " ") ++ context.compact

/-- A state as a line can name it: no blanks, and no brace in front. -/
def IsNameable (p : String) : Prop :=
  (∀ c ∈ p.toList, Text.isBlank c = false) ∧ p.toList.head? ≠ some '\x7b'

theorem words_contextLine {state : Option String} (h : ∀ p, state = some p → IsNameable p)
    (context : Value) : Text.words (contextLine state context) =
      "start" :: ((state.filter (· ≠ "")).toList ++ Text.words context.compact) := by
  have hstart : Text.IsWord "start" := by decide
  cases state with
  | none =>
    have hchars : (contextLine none context).toList =
        "start".toList ++ ' ' :: context.compact.toList := by
      simp [contextLine]
    rw [Text.words, hchars, Text.wordsFrom_word_space hstart]
    rfl
  | some p =>
    have hchars : (contextLine (some p) context).toList =
        "start".toList ++ ' ' :: (p.toList ++ ' ' :: context.compact.toList) := by
      simp [contextLine]
    rw [Text.words, hchars, Text.wordsFrom_word_space hstart]
    by_cases hempty : p = ""
    · -- a state without characters leaves no word
      rw [hempty]
      rfl
    · have hnamed : (some p).filter (· ≠ "") = some p := by simp [Option.filter_some, hempty]
      rw [Text.wordsFrom_word_space ⟨hempty, (h p rfl).1⟩, hnamed]
      rfl

/-- A start with an object for its context, typed behind a state or alone. -/
theorem ofLine?_contextLine {state : Option String} (h : ∀ p, state = some p → IsNameable p)
    {members : List (String × Value)} (hintegral : (Value.object members).Integral) :
    Request.ofLine? (contextLine state (.object members)) =
      some (.start (state.filter (· ≠ ""))
        (some ((Value.object members).mapTexts Json.squeeze).compact)) := by
  have hname : Text.lowercase "start" = "start" := by decide +kernel
  obtain ⟨first, rest, hwords, hbrace⟩ :=
    Text.exists_wordsFrom_cons (List.cons_ne_nil '\x7b' []) (Value.memberChars members ++ ['}'])
  have hcontext : Text.words (Value.object members).compact = first :: rest := by
    rw [← hwords, Text.words, Value.compact, String.toList_ofList]
    rfl
  have hjoined := Json.spaced_words_compact hintegral
  rw [hcontext] at hjoined
  rw [ofLine?_of_words (words_contextLine h _), hname, hcontext]
  -- the first word opens the context unless a state stands in front
  show some (Request.startOf _) = _
  cases hstate : state.filter (· ≠ "") with
  | none =>
    simp [Request.startOf, Request.contextOf, hbrace, ← hjoined, Text.spaced]
  | some p =>
    obtain ⟨hp, -⟩ := Option.filter_eq_some_iff.mp hstate
    simp [Request.startOf, Request.contextOf, (h p hp).2, ← hjoined, Text.spaced]

/-! ## The start -/

variable {diag : Diagnostics} {s : Session}

/-- The interpreter of a session is one of its machine, whatever a request does. -/
theorem Effect.machine_interpreter {s' : Session} {r : Request} (h : s.Effect r s')
    (hs : s.interpreter.machine = s.machine) : s'.interpreter.machine = s'.machine := by
  have hdrive : ∀ (s : Session) (op : Operation Value), s.interpreter.machine = s.machine →
      (s.drive op).interpreter.machine = (s.drive op).machine :=
    fun s op hs => (s.interpreter.machine_perform op).trans hs
  cases h with
  | looked _ | refused _ _ => exact hs
  | started state _ => exact hdrive s _ hs
  | @sent sent types _ =>
    clear * - hs hdrive
    induction sent generalizing s with
    | nil => exact hs
    | cons type rest ih => exact ih (hdrive s _ hs)
  | stopped => exact hdrive s .stop hs
  | reset => rfl

theorem machine_interpreter_enterAll (m : Machine) (lines : List String) :
    ((new m).enterAll diag lines).interpreter.machine = m := by
  have hmachine : ((new m).enterAll diag lines).interpreter.machine =
      ((new m).enterAll diag lines).machine :=
    enterAll_induction (fun h => h.machine_interpreter) rfl lines
  exact hmachine.trans (machine_enterAll (new m) lines)

/-- A session that is idle can be started, in any state that its interpreter knows. -/
theorem admits_startCall (hidle : s.interpreter.status = .idle) {state : Option String}
    (hstate : ∀ p, state = some p → (s.interpreter.machine.lookup p).isSome = true)
    (context : Option Value) : s.interpreter.admits (startCall state context) = true := by
  cases state with
  | none => exact beq_iff_eq.mpr hidle
  | some p => exact Bool.and_eq_true_iff.mpr ⟨beq_iff_eq.mpr hidle, hstate p rfl⟩

/-- A session whose start gets past its checks starts with the context that it is given. -/
theorem Recorded.startWith_of_admits (h : s.Recorded) {state : Option String} {text : String}
    {context : Value} (hparse : Value.parse? text = some context)
    (hadmits : s.interpreter.admits (startCall state (some context)) = true) :
    (s.startWith diag state (some text)).2 =
        .output ("Started in " ++ (s.startWith diag state (some text)).1.path.display) ∧
      (s.startWith diag state (some text)).1.interpreter.context = context := by
  have hgiven : (some text).map Value.parse? = (some context).map some := congrArg some hparse
  rw [startWith_of_parse? s state hgiven, fst_conclude]
  constructor
  · cases hresult : (Machine.startScript ⟨state, some context, []⟩ s.interpreter).result with
    | ok a => simp only [conclude, hresult]
    | error e =>
      have herror : s.interpreter.error? (startCall state (some context)) = some e := by
        rw [← error?_startScript, Reply.error?, hresult]
      exact absurd hadmits (h.not_admits_of_error herror)
  · rw [after_startScript, Session.drive, (Interpreter.perform_of_admits hadmits).1]
    cases state with
    | none => rfl
    | some path =>
      obtain ⟨-, q, -, hcommitted⟩ := Interpreter.exists_entered_of_admits hadmits
      show (s.interpreter.committed (.startAt path (some context))).context = context
      rw [hcommitted]
      rfl

/-- An object whose numbers are integers, in which no name is repeated and which is no deeper than
what is read. -/
structure IsTypable (v : Value) : Prop where
  object : ∃ members, v = .object members
  integral : v.Integral
  distinct : v.Distinct
  depth_le : v.depth ≤ Json.maxLevels

/-- A start with a context that is typed behind it, in a given state or in the initial one, succeeds
in a session that is idle, whatever lines were typed before. What the session has for its context is
the object that was typed, but for its texts, the strings and the names: there each run of blanks has
become one space, unless it was escaped, and names that have become the same are folded. It is the
object that was typed exactly if every such blank is a space that stands alone. -/
theorem context_of_start_line (diag : Diagnostics) (m : Machine) (before : List String)
    (state : Option String) (v : Value)
    (hidle : ((new m).enterAll diag before).interpreter.status = .idle)
    (hstate : ∀ p, state = some p → IsNameable p ∧ (m.lookup p).isSome = true)
    (hv : IsTypable v) :
    let s := ((new m).enterAll diag before).enter diag (contextLine state v)
    s.2 = .output ("Started in " ++ s.1.path.display) ∧
      s.1.interpreter.context = v.squeezed ∧
      (s.1.interpreter.context = v ↔
        ∀ t ∈ v.texts, Text.SinglySpaced Json.isBareBlank t.toList) := by
  intro s
  obtain ⟨⟨members, rfl⟩, hintegral, hdistinct, hdepth⟩ := hv
  have hline := ofLine?_contextLine (fun p hp => (hstate p hp).1) hintegral
  have hparse : Value.parse? ((Value.object members).mapTexts Json.squeeze).compact =
      some (Value.object members).squeezed := by
    apply Value.parse?_compact (hintegral.mapTexts _)
    rwa [Value.depth_mapTexts]
  have hknown : ∀ p, state.filter (· ≠ "") = some p →
      (((new m).enterAll diag before).interpreter.machine.lookup p).isSome = true := fun p hp => by
    rw [machine_interpreter_enterAll]
    exact (hstate p (Option.filter_eq_some_iff.mp hp).1).2
  have hadmits := admits_startCall hidle hknown (some (Value.object members).squeezed)
  have hs : s = ((new m).enterAll diag before).startWith diag (state.filter (· ≠ ""))
      (some ((Value.object members).mapTexts Json.squeeze).compact) :=
    enter_of_ofLine? hline
  obtain ⟨hshown, hcontext⟩ := (recorded_enterAll m before).startWith_of_admits hparse hadmits
  rw [hs]
  refine ⟨hshown, hcontext, ?_⟩
  rw [hcontext]
  exact Value.squeezed_eq_self_iff hdistinct

/-- An order that is started in its active state with a note in which a blank is repeated and a tab
is escaped, and with one in which the words stand one space apart. -/
theorem context_of_start_line_order :
    let loose : Value := .object [("note", .string "paid  twice\tby card"),
      ("open", .array [.number (.integer (-5) (by decide)), .null])]
    let spaced : Value := .object [("paid by", .string " card ")]
    let idle := (new Machine.order).enterAll default []
    let s := idle.enter default (contextLine (some "active") loose)
    let t := idle.enter default (contextLine (some "active") spaced)
    s.2 = .output ("Started in " ++ s.1.path.display) ∧
      s.1.interpreter.context = .object [("note", .string "paid twice\tby card"),
        ("open", .array [.number (.integer (-5) (by decide)), .null])] ∧
      s.1.interpreter.context ≠ loose ∧ t.1.interpreter.context = spaced := by
  intro loose spaced
  have hactive : ∀ p, some "active" = some p →
      IsNameable p ∧ (Machine.order.lookup p).isSome = true := by
    rintro p ⟨⟩
    exact ⟨⟨Text.all_not_blank_iff.mp (by decide), by decide⟩, by decide +kernel⟩
  have hloose : IsTypable loose :=
    ⟨⟨_, rfl⟩, ⟨trivial, ⟨trivial, trivial, trivial⟩, trivial⟩,
      ⟨by decide, trivial, ⟨trivial, trivial, trivial⟩, trivial⟩, by decide⟩
  have hspaced : IsTypable spaced :=
    ⟨⟨_, rfl⟩, ⟨trivial, trivial⟩, ⟨by decide, trivial, trivial⟩, by decide⟩
  obtain ⟨hshown, hcontext, hloosened⟩ :=
    context_of_start_line default Machine.order [] (some "active") loose rfl hactive hloose
  obtain ⟨-, -, hkept⟩ :=
    context_of_start_line default Machine.order [] (some "active") spaced rfl hactive hspaced
  have hrepeated : ¬ ∀ t ∈ loose.texts, Text.SinglySpaced Json.isBareBlank t.toList := by
    decide +kernel
  have hsqueezed : loose.squeezed = .object [("note", .string "paid twice\tby card"),
      ("open", .array [.number (.integer (-5) (by decide)), .null])] := by rfl
  exact ⟨hshown, hcontext.trans hsqueezed, fun h => hrepeated (hloosened.mp h),
    hkept.mpr (by decide +kernel)⟩

/-- A note that is typed with two spaces arrives with one, although the start is that of an idle
session in the initial state, and its context an object without numbers. -/
theorem context_changed_by_start_line_order :
    let typed : Value := .object [("note", .string "a  b")]
    let s := new Machine.order
    s.interpreter.status = .idle ∧ IsTypable typed ∧
      (s.enter default (contextLine none typed)).2 = .output "Started in order.pending" ∧
      (s.enter default (contextLine none typed)).1.interpreter.context ≠ typed := by
  intro typed s
  have htypable : IsTypable typed :=
    ⟨⟨_, rfl⟩, ⟨trivial, trivial⟩, ⟨by decide, trivial, trivial⟩, by decide⟩
  obtain ⟨hshown, htext⟩ :
      (s.enter default (contextLine none typed)).2 = .output "Started in order.pending" ∧
        (s.enter default (contextLine none typed)).1.interpreter.context.compact ≠ typed.compact := by
    decide +kernel
  exact ⟨by decide +kernel, htypable, hshown, fun h => htext (congrArg Value.compact h)⟩

end Statechart.Session
