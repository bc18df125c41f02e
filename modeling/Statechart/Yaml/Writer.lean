import Statechart.Yaml.Resolved
import Statechart.Yaml.Scalar
/-!
Writing a string as the value of a block mapping. A text that would mean something else is quoted, a
text of several lines becomes a literal block, and a text with characters that cannot be shown is
written with escapes.
-/

namespace Statechart.Yaml

/-- May be written as it is. -/
def isPrintable (c : Char) : Bool :=
  let n := c.toNat
  n == 0x0A || (0x20 ≤ n && n ≤ 0x7E) || (0xA0 ≤ n && n ≤ 0xD7FF) ||
    (0xE000 ≤ n && n ≤ 0xFFFD && n != 0xFEFF) || 0x10000 ≤ n

/-- What matters about a text for the choice of its style. -/
structure Traits where
  /-- Starts or ends with a space or a break. -/
  paddedEnds : Bool
  endsWithSpace : Bool
  /-- A space follows a break. -/
  breakSpace : Bool
  /-- A break follows a space. -/
  spaceBreak : Bool
  unprintable : Bool
  hasBreak : Bool
  /-- Holds an indicator that means something in a block. -/
  hasIndicator : Bool

/-- The indicators that must not start a plain scalar. -/
def startIndicators : List Char :=
  ['#', ',', '[', ']', '\x7b', '\x7d', '&', '*', '!', '|', '>', '\'', '"', '%', '@', '\x60']

/-- An indicator that means something in a block stands at the start of a text. -/
def startsWithIndicator : List Char → Bool
  | '-' :: '-' :: '-' :: _ | '.' :: '.' :: '.' :: _ => true
  | c :: rest =>
    startIndicators.contains c || ((c == '?' || c == ':' || c == '-') && atGap rest)
  | [] => false

/-- An indicator that means something in a block stands behind the start: a colon in front of a gap
or a number sign behind one. -/
def holdsIndicator : List Char → Bool
  | a :: b :: rest =>
    (b == ':' && atGap rest) || (b == '#' && (isWhite a || isBreak a)) || holdsIndicator (b :: rest)
  | _ => false

/-- The characters `a` and `b` stand next to each other somewhere. -/
def adjacent (a b : Char → Bool) : List Char → Bool
  | x :: y :: rest => (a x && b y) || adjacent a b (y :: rest)
  | _ => false

/-- The traits of a text. -/
def traits (cs : List Char) : Traits :=
  let isSpace (c : Char) : Bool := c == ' '
  let pads (c : Char) : Bool := isSpace c || isBreak c
  { paddedEnds := cs.head?.any pads || cs.getLast?.any pads
    endsWithSpace := cs.getLast?.any isSpace
    breakSpace := adjacent isBreak isSpace cs
    spaceBreak := adjacent isSpace isBreak cs
    unprintable := !cs.all isPrintable
    hasBreak := cs.any isBreak
    hasIndicator := startsWithIndicator cs || holdsIndicator cs }

/-- The style of a text: literal for several lines, quoted where a plain scalar would mean something
else or is not possible. -/
def styleOf (s : String) : Style :=
  let t := traits s.toList
  let quoted : Style :=
    if t.breakSpace || t.spaceBreak || t.unprintable then .doubleQuoted else .singleQuoted
  if s.toList.contains '\n' then
    if t.endsWithSpace || t.spaceBreak || t.unprintable then .doubleQuoted else .literal
  else
    match resolve s with
    | .string _ =>
      if isZeroPadded s.toList || t.paddedEnds || t.breakSpace || t.spaceBreak || t.unprintable ||
        t.hasBreak || t.hasIndicator then quoted
      else .plain
    | _ => quoted

/-- A code point in `width` hexadecimal digits, in upper case. -/
def hexUpper (width n : Nat) : List Char :=
  let ds := (Nat.toDigits 16 n).map Char.toUpper
  List.replicate (width - ds.length) '0' ++ ds

/-- A character inside double quotes. -/
def writeDoubleChar (c : Char) : List Char :=
  if isPrintable c && !isBreak c && c != '"' && c != '\\' then [c]
  else
    '\\' :: match c.toNat with
      | 0x00 => ['0']
      | 0x07 => ['a']
      | 0x08 => ['b']
      | 0x09 => ['t']
      | 0x0A => ['n']
      | 0x0B => ['v']
      | 0x0C => ['f']
      | 0x0D => ['r']
      | 0x1B => ['e']
      | 0x22 => ['"']
      | 0x5C => ['\\']
      | 0x85 => ['N']
      | 0xA0 => ['_']
      | 0x2028 => ['L']
      | 0x2029 => ['P']
      | n =>
        if n ≤ 0xFF then 'x' :: hexUpper 2 n
        else if n ≤ 0xFFFF then 'u' :: hexUpper 4 n
        else 'U' :: hexUpper 8 n

/-- The lines of a scalar: behind a break, the next character is indented. A break inside quotes is
followed by the indentation of the closing quote as well. -/
def writeLines (indent : Nat) (writeChar : Char → List Char) (afterBreak : Bool) :
    List Char → List Char
  | [] => []
  | c :: rest =>
    if isBreak c then c :: writeLines indent writeChar true rest
    else
      (if afterBreak then List.replicate indent ' ' else []) ++ writeChar c ++
        writeLines indent writeChar false rest

/-- The indicators of a literal block: the depth of its indentation where the text starts with a
space or a break, and what happens to the breaks at its end. -/
def blockHeader (cs : List Char) : List Char :=
  (if cs.head?.any fun c => c == ' ' || isBreak c then ['2'] else []) ++
    match cs.reverse with
    | [] => ['-']
    | [c] => if isBreak c then ['+'] else ['-']
    | c :: d :: _ => if !isBreak c then ['-'] else if isBreak d then ['+'] else []

/-- A string as the value of a mapping: what follows the colon, with the line feed at its end. Its
lines are indented to column `indent`. -/
def writeString (indent : Nat) (s : String) : String :=
  let cs := s.toList
  match styleOf s with
  | .plain | .folded => " " ++ s ++ "\n"
  | .singleQuoted =>
    let double (c : Char) : List Char := if c == '\'' then ['\'', '\''] else [c]
    let last := if cs.getLast?.any isBreak then List.replicate indent ' ' else []
    String.ofList ([' ', '\''] ++ writeLines indent double false cs ++ last ++ ['\'', '\n'])
  | .doubleQuoted => String.ofList ([' ', '"'] ++ cs.flatMap writeDoubleChar ++ ['"', '\n'])
  | .literal =>
    let last := if cs.getLast?.any isBreak then [] else ['\n']
    String.ofList ([' ', '|'] ++ blockHeader cs ++ ['\n'] ++
      writeLines indent (fun c => [c]) true cs ++ last)

end Statechart.Yaml
