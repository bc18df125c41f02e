import Statechart.Interpreter
/-!
Reports: what a script did to a machine, step by step, and the two ways to show it. A hidden context
is shown by neither.
-/

namespace Statechart

open Json (Value)

/-- What one event of a script did. -/
structure ReportStep where
  event : Event
  state : StatePath
  /-- The state value of `state`. -/
  value : Value
  handled : Bool
  /-- Why the event failed, if it did, in words. -/
  error : Option String
  /-- The stable code of the failure. -/
  errorCode : Option String

/-- The outcome of a script. -/
structure Report where
  machine : String
  checksum : String
  initial : StatePath
  initialValue : Value
  steps : List ReportStep
  context : Value
  status : Status

/-- A bare string as it is, everything else as compact JSON. -/
def Json.Value.plain : Value → String
  | .string s => s
  | v => v.compact

namespace Report

/-- The path below the root after each step. -/
def states (r : Report) : List String := r.steps.map fun s => s.state.relative

/-- The state after the last step. -/
def final (r : Report) : StatePath := (r.steps.getLast?.map ReportStep.state).getD r.initial

/-- The number of events that failed. -/
def errorCount (r : Report) : Nat := r.steps.countP fun s => s.error.isSome

/-- The two ways to show a report. -/
inductive Format
  | text
  | json
deriving DecidableEq, Repr, Inhabited

/-- How a report is shown. -/
structure Style where
  format : Format := .text
  showContext : Bool := false
deriving DecidableEq, Repr, Inhabited

/-- What stands behind the state value of a step. -/
def remark (s : ReportStep) : String :=
  match s.error with
  | some message => " (error " ++ s.errorCode.getD "UNKNOWN" ++ ": " ++ message ++ ")"
  | none => if s.handled then "" else " (ignored)"

/-- The lines of a report: the initial state value, and for each event its type and the state value
after it. -/
def lines (r : Report) (showContext : Bool) : List String :=
  r.initialValue.plain ::
    (r.steps.flatMap fun s => [s.event.type, s.value.plain ++ remark s]) ++
    if showContext then ["context: " ++ r.context.compact] else []

/-- The report as text, every line ended. -/
def toText (r : Report) (showContext : Bool) : String :=
  String.join ((r.lines showContext).map fun l => l ++ "\n")

/-- A step as a value. -/
def stepJson (s : ReportStep) : Value :=
  .object (
    [("event", s.event.toJson), ("state", .string s.state.display), ("value", s.value),
      ("handled", .bool s.handled)] ++
    (s.error.map fun message => ("error", .string message)).toList ++
    (s.errorCode.map fun code => ("error_code", .string code)).toList)

/-- The members of a report, the context among them. -/
def members (r : Report) : List (String × Value) :=
  [("machine", .string r.machine), ("checksum", .string r.checksum),
    ("initial", .string r.initial.display), ("initial_value", r.initialValue),
    ("steps", .array (r.steps.map stepJson)), ("context", r.context),
    ("status", .string r.status.name)]

/-- The report as a value; a context that is not shown is taken out of its members. -/
def toJson (r : Report) (showContext : Bool) : Value :=
  .object (if showContext then r.members else Json.removeMember "context" r.members)

/-- The report in a given style. -/
def render (r : Report) (style : Style) : String :=
  match style.format with
  | .text => r.toText style.showContext
  | .json => (r.toJson style.showContext).pretty

end Report

end Statechart
