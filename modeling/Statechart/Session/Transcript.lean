import Statechart.Session.Basic
import Statechart.Session.Line
/-!
The transcript of a session: everything it prints while it reads lines until the input ends or a line
asks to quit.
-/

namespace Statechart.Session

/-- The first line of every session. -/
def title : String := "substate CLI\n"

/-- What a session over a machine prints in front of its first prompt. -/
def opening (m : Machine) : String :=
  "Loaded machine " ++ m.id ++ " (" ++ toString m.size ++ " states)\n" ++
    "Type 'help' for available commands.\n\n"

/-- The prompt. -/
def prompt (s : Session) : String := s.label ++ " "

/-- What a session prints when the input ends. -/
def farewell : String := "^D\n"

/-- The response to a line: what is printed, and the session that goes on. None ends the session. -/
def respond (diag : Diagnostics) (s : Session) (line : String) : Option (String × Session) :=
  match Request.ofLine? line with
  | none => some ("", s)
  | some request =>
    match s.execute diag request with
    | (s, .output text) => some (text ++ "\n\n", s)
    | (s, .failed e) => some (e.describe ++ "\n\n", s)
    | (_, .quit) => none

/-- The response to a typed line: to the line that was meant. One that cannot be made out ends the
session. -/
def respondTyped (diag : Diagnostics) (s : Session) (typed : String) : Option (String × Session) :=
  (Line.meant? typed).bind (s.respond diag)

/-- What a session prints while it reads the given lines, from the first prompt on. -/
def transcript (diag : Diagnostics) (s : Session) : List String → String
  | [] => s.prompt ++ farewell
  | typed :: rest =>
    s.prompt ++
      match s.respondTyped diag typed with
      | some (text, s) => text ++ s.transcript diag rest
      | none => ""

/-- Everything that is printed below the first line by a new session over a machine. -/
def conversation (diag : Diagnostics) (m : Machine) (lines : List String) : String :=
  opening m ++ (new m).transcript diag lines

end Statechart.Session
