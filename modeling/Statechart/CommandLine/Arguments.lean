/-!
Arguments of a command: options with and without a value, and plain arguments. An option is given once
at most, long (`--name value`, `--name=value`) or, if it has a value, short (`-n value`, `-nvalue`,
`-n=value`); behind `--` every argument is plain. Arguments are looked at from left to right, so a
request for help counts only if nothing in front of it is wrong.
-/

namespace Statechart.CommandLine

/-- Why arguments are not carried out. -/
inductive Refusal
  | misuse
  | help
  | version
deriving DecidableEq, Repr

/-- What a command understands: options without a value, options with a value and their short form,
those of them whose value may not be empty, and the number of plain arguments. -/
structure Grammar where
  flags : List String := []
  valued : List (Char × String) := []
  filled : List String := []
  plain : Nat := 0

/-- What was given. -/
inductive Item
  | flag (name : String)
  | value (name : String) (text : String)
  | plain (text : String)
deriving DecidableEq, Repr

/-- The option that an item sets. -/
def Item.name? : Item → Option String
  | flag name | value name _ => some name
  | plain _ => none

/-- What a single argument says. -/
inductive Word
  | item (i : Item)
  | valueOf (name : String)
  | help
  | unknown
deriving DecidableEq, Repr

/-- Begins with a dash and is more than that. -/
def looksLikeOption (arg : String) : Bool :=
  match arg.toList with
  | '-' :: _ :: _ => true
  | _ => false

namespace Grammar

/-- Reads a long option behind its dashes. -/
def longWord (g : Grammar) (text : List Char) : Word :=
  let name := String.ofList (text.takeWhile (· != '='))
  let isValued := g.valued.any fun (_, n) => n == name
  match text.dropWhile (· != '=') with
  | [] =>
    if name == "help" then .help
    else if g.flags.contains name then .item (.flag name)
    else if isValued then .valueOf name
    else .unknown
  | _ :: value => if isValued then .item (.value name (String.ofList value)) else .unknown

/-- Reads a short option behind its dash. -/
def shortWord (g : Grammar) (c : Char) (text : List Char) : Word :=
  if c == 'h' then .help
  else
    match g.valued.lookup c, text with
    | none, _ => .unknown
    | some name, [] => .valueOf name
    | some name, '=' :: value => .item (.value name (String.ofList value))
    | some name, value => .item (.value name (String.ofList value))

/-- Reads an argument. -/
def word (g : Grammar) (arg : String) : Word :=
  match arg.toList with
  | '-' :: '-' :: text => g.longWord text
  | '-' :: c :: text => g.shortWord c text
  | _ => .item (.plain arg)

/-- Adds an item to those in front of it: an option may not be given again, some values may not be
empty, and there may not be more plain arguments than are understood. -/
def add (g : Grammar) (items : List Item) (i : Item) : Except Refusal (List Item) :=
  let isRepeated (name : String) : Bool := items.any fun j => j.name? == some name
  let isRefused : Bool := match i with
    | .flag name => isRepeated name
    | .value name text => isRepeated name || (text.isEmpty && g.filled.contains name)
    | .plain _ => decide (g.plain ≤ items.countP fun j => j.name?.isNone)
  if isRefused then .error .misuse else .ok (items ++ [i])

/-- Reads arguments behind items that have been read. -/
def readFrom (g : Grammar) (items : List Item) : List String → Except Refusal (List Item)
  | [] => .ok items
  | arg :: rest =>
    if arg == "--" then rest.foldlM (fun items a => g.add items (.plain a)) items
    else
      match g.word arg with
      | .item i => do readFrom g (← g.add items i) rest
      | .help => .error .help
      | .unknown => .error .misuse
      | .valueOf name =>
        match rest with
        | [] => .error .misuse
        | value :: rest =>
          if looksLikeOption value then .error .misuse
          else do readFrom g (← g.add items (.value name value)) rest

/-- Reads the arguments of a command. -/
def read (g : Grammar) (args : List String) : Except Refusal (List Item) := g.readFrom [] args

end Grammar

/-- The value of an option. -/
def valueOf? (items : List Item) (name : String) : Option String :=
  items.findSome? fun
    | .value n text => if n == name then some text else none
    | _ => none

/-- The first plain argument. -/
def plain? (items : List Item) : Option String :=
  items.findSome? fun
    | .plain text => some text
    | _ => none

/-- An option without a value is given. -/
def isSet (items : List Item) (name : String) : Bool := items.contains (.flag name)

end Statechart.CommandLine
