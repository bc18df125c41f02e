/-!
Positions in a YAML text. A cursor holds the characters that are left, the number of bytes read, and
the line and column it has reached.
-/

namespace Statechart.Yaml

/-- Ends a line: line feed, carriage return, next line, line and paragraph separator. -/
def isBreak (c : Char) : Bool :=
  c == '\n' || c == '\r' || c.toNat == 0x85 || c.toNat == 0x2028 || c.toNat == 0x2029

/-- A space or a tab. -/
def isWhite (c : Char) : Bool := c == ' ' || c == '\t'

/-- A blank, a break or the end of the text stands first. -/
def atGap : List Char → Bool
  | [] => true
  | c :: _ => isWhite c || isBreak c

/-- A break stands first. -/
def atBreak : List Char → Bool
  | [] => false
  | c :: _ => isBreak c

/-- A break or the end of the text stands first. -/
def atLineEnd : List Char → Bool
  | [] => true
  | c :: _ => isBreak c

/-- Part of a name: an ASCII letter or digit, an underscore or a hyphen. -/
def isNameChar (c : Char) : Bool := c.isAlphanum || c == '_' || c == '-'

/-- May stand in a YAML text. -/
def isAllowed (c : Char) : Bool :=
  let n := c.toNat
  n == 0x09 || n == 0x0A || n == 0x0D || (0x20 ≤ n && n ≤ 0x7E) || n == 0x85 ||
    (0xA0 ≤ n && n ≤ 0xD7FF) || (0xE000 ≤ n && n ≤ 0xFFFD) || 0x10000 ≤ n

/-- A position in a text; `index` counts bytes and `column` characters. -/
structure Cursor where
  rest : List Char
  index : Nat := 0
  line : Nat := 0
  column : Nat := 0

namespace Cursor

/-- Passes over `n` characters of one line. -/
def advance (c : Cursor) (n : Nat) : Cursor :=
  { c with
    rest := c.rest.drop n
    index := c.index + (String.ofList (c.rest.take n)).utf8ByteSize
    column := c.column + n }

/-- The cursor behind the break that stands first. -/
def nextLine (c : Cursor) : Cursor :=
  match c.rest with
  | '\r' :: '\n' :: rest => ⟨rest, c.index + 2, c.line + 1, 0⟩
  | b :: rest => if isBreak b then ⟨rest, c.index + b.utf8Size, c.line + 1, 0⟩ else c
  | [] => c

/-- What the break that stands first contributes to a scalar: every break reads as a line feed,
except the separators, which stay. -/
def breakText (c : Cursor) : List Char :=
  match c.rest with
  | b :: _ =>
    if b.toNat == 0x2028 || b.toNat == 0x2029 then [b] else if isBreak b then ['\n'] else []
  | [] => []

/-- Passes over the blanks of a line. -/
def skipWhite (c : Cursor) : Cursor := c.advance (c.rest.takeWhile isWhite).length

/-- Passes over what is left of a line, its break not included. -/
def skipToLineEnd (c : Cursor) : Cursor :=
  c.advance (c.rest.takeWhile fun x => !isBreak x).length

/-- Passes over a comment, if one stands here. -/
def skipComment (c : Cursor) : Cursor :=
  if c.rest.head? == some '#' then c.skipToLineEnd else c

/-- A line that starts with three hyphens or three dots and a gap divides documents. -/
def atDivider (c : Cursor) : Bool :=
  c.column == 0 &&
    match c.rest with
    | '-' :: '-' :: '-' :: rest | '.' :: '.' :: '.' :: rest => atGap rest
    | _ => false

end Cursor

end Statechart.Yaml
