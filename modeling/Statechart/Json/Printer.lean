import Statechart.Json.Value
/-!
JSON text of a value, compact or indented by two spaces. Strings escape the quote, the backslash and
the controls below the space, and nothing else.
-/

namespace Statechart.Json

/-- A hexadecimal digit in lower case. -/
def hexDigit (n : Nat) : Char := Nat.digitChar (n % 16)

/-- A character inside a string. -/
def escapeChar (c : Char) : List Char :=
  match c with
  | '"' => ['\\', '"']
  | '\\' => ['\\', '\\']
  | '\x08' => ['\\', 'b']
  | '\t' => ['\\', 't']
  | '\n' => ['\\', 'n']
  | '\x0c' => ['\\', 'f']
  | '\r' => ['\\', 'r']
  | c =>
    if c.toNat < 0x20 then ['\\', 'u', '0', '0', hexDigit (c.toNat / 16), hexDigit c.toNat] else [c]

/-- A string between quotes. -/
def printString (s : String) : List Char := '"' :: s.toList.flatMap escapeChar ++ ['"']

namespace Value

mutual

/-- The compact text. -/
def chars : Value → List Char
  | .null => ['n', 'u', 'l', 'l']
  | .bool true => ['t', 'r', 'u', 'e']
  | .bool false => ['f', 'a', 'l', 's', 'e']
  | .number n => n.print
  | .string s => printString s
  | .array items => '[' :: itemChars items ++ [']']
  | .object members => '{' :: memberChars members ++ ['}']

def itemChars : List Value → List Char
  | [] => []
  | [v] => v.chars
  | v :: rest => v.chars ++ ',' :: itemChars rest

def memberChars : List (String × Value) → List Char
  | [] => []
  | [(name, v)] => printString name ++ ':' :: v.chars
  | (name, v) :: rest => printString name ++ ':' :: (v.chars ++ ',' :: memberChars rest)

end

/-- The compact text. -/
def compact (v : Value) : String := String.ofList v.chars

/-- A new line, indented. -/
def newLine (level : Nat) : List Char := '\n' :: List.replicate (2 * level) ' '

mutual

/-- The indented text; `level` is the number of arrays and objects around the value. -/
def indented (level : Nat) : Value → List Char
  | .array [] => ['[', ']']
  | .array items => '[' :: indentedItems (level + 1) items ++ newLine level ++ [']']
  | .object [] => ['{', '}']
  | .object members => '{' :: indentedMembers (level + 1) members ++ newLine level ++ ['}']
  | .null => ['n', 'u', 'l', 'l']
  | .bool true => ['t', 'r', 'u', 'e']
  | .bool false => ['f', 'a', 'l', 's', 'e']
  | .number n => n.print
  | .string s => printString s

def indentedItems (level : Nat) : List Value → List Char
  | [] => []
  | [v] => newLine level ++ indented level v
  | v :: rest => newLine level ++ indented level v ++ ',' :: indentedItems level rest

def indentedMembers (level : Nat) : List (String × Value) → List Char
  | [] => []
  | [(name, v)] => newLine level ++ printString name ++ ':' :: ' ' :: indented level v
  | (name, v) :: rest =>
    newLine level ++ printString name ++ ':' :: ' ' ::
      (indented level v ++ ',' :: indentedMembers level rest)

end

/-- The indented text. -/
def pretty (v : Value) : String := String.ofList (v.indented 0)

end Value

end Statechart.Json
