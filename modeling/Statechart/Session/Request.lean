import Statechart.Text.Blank
import Statechart.Text.Lowercase
/-!
Requests: what a line typed into a session asks for. The first word of the line, in any case, names
the request and the other words are its arguments. Main statement: a line has no request exactly if it
has no words.
-/

namespace Statechart.Session

/-- What a line asks for. -/
inductive Request
  | help
  | quit
  /-- Start, in a given state or the initial one, with a context given as text or the default one. -/
  | start (state : Option String) (context : Option String)
  | send (types : List String)
  | stop
  | reset
  | state
  | value
  | events
  | context
  | history
  | tree
  | unknown (name : String)
deriving DecidableEq, Repr

namespace Request

/-- A context as it was typed, its words separated by single spaces. -/
def contextOf (words : List String) : Option String :=
  if words.isEmpty then none else some (" ".intercalate words)

/-- The arguments of a start: a first word with a brace in front begins the context, any other one is
the state. -/
def startOf : List String → Request
  | [] => start none none
  | first :: rest =>
    if first.toList.head? == some '\x7b' then start none (contextOf (first :: rest))
    else start (some first) (contextOf rest)

/-- The request of a name in lower case. -/
def named (name : String) (arguments : List String) : Request :=
  match name with
  | "help" | "?" => help
  | "quit" | "exit" | "q" => quit
  | "start" => startOf arguments
  | "send" | "s" => send arguments
  | "stop" => stop
  | "reset" => reset
  | "state" => state
  | "value" => value
  | "events" | "e" => events
  | "context" | "ctx" => context
  | "history" => history
  | "tree" => tree
  | name => unknown name

/-- The request of a list of words. -/
def ofWords? : List String → Option Request
  | [] => none
  | name :: arguments => some (named (Text.lowercase name) arguments)

/-- The request of a line; a blank line asks for nothing. -/
def ofLine? (line : String) : Option Request := ofWords? (Text.words line)

theorem ofWords?_eq_none_iff {words : List String} : ofWords? words = none ↔ words = [] := by
  cases words <;> simp [ofWords?]

theorem ofLine?_eq_none_iff {line : String} : ofLine? line = none ↔ Text.words line = [] :=
  ofWords?_eq_none_iff

end Request

/-- The answer to a request for help. -/
def helpText : String :=
  "\nAvailable commands:\n" ++
  "  help                          Show this help\n" ++
  "\n" ++
  "  start [state] [context]       Start the interpreter (optionally in a state)\n" ++
  "  send <EVENT>...               Send one or more events\n" ++
  "  stop                          Stop the interpreter\n" ++
  "  reset                         Discard the interpreter and create a new one\n" ++
  "\n" ++
  "  state                         Show the current state path\n" ++
  "  value                         Show the current state value\n" ++
  "  events                        List events handled in the current state\n" ++
  "  context                       Show the current context\n" ++
  "  history                       Show transitions observed so far\n" ++
  "  tree                          Print the state tree\n" ++
  "\n" ++
  "  quit, exit                    Exit the REPL\n"

end Statechart.Session
