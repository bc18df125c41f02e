import Statechart.Yaml.Cursor
import Statechart.Json.Reader
/-!
The text of YAML scalars. Plain and quoted scalars may run over several lines: the blanks around a
break are dropped, a single break becomes a space and further breaks stay. Literal and folded blocks
keep their lines, indented by a fixed column.
-/

namespace Statechart.Yaml

/-- How a scalar is written. -/
inductive Style
  | plain
  | singleQuoted
  | doubleQuoted
  | literal
  | folded
deriving DecidableEq, Repr

/-! ## Gaps between the words of a scalar -/

/-- A gap: blanks on the line, or a first break and the breaks after it. -/
structure Gap where
  white : List Char := []
  first : List Char := []
  further : List Char := []
  broken : Bool := false

/-- What a gap contributes to the scalar. -/
def Gap.text (g : Gap) : List Char :=
  if g.broken then
    if g.first.head? == some '\n' then
      if g.further.isEmpty then [' '] else g.further
    else g.first ++ g.further
  else g.white

/-- Reads a gap. Where a column is given, a tab on a continuation line before it is an error. -/
def readGap (tabLimit : Option Nat) : Nat → Gap → Cursor → Option (Gap × Cursor)
  | 0, g, c => some (g, c)
  | fuel + 1, g, c =>
    match c.rest with
    | [] => some (g, c)
    | x :: _ =>
      if isWhite x then
        if g.broken && x == '\t' && (tabLimit.any fun limit => decide (c.column < limit)) then none
        else readGap tabLimit fuel (if g.broken then g else { g with white := g.white ++ [x] })
          (c.advance 1)
      else if isBreak x then
        readGap tabLimit fuel
          (if g.broken then { g with further := g.further ++ c.breakText }
            else { g with white := [], first := c.breakText, broken := true })
          c.nextLine
      else some (g, c)

/-! ## Plain scalars -/

/-- The characters of a plain scalar up to a gap or an indicator that ends it. Inside brackets a
colon in front of an indicator is an error. -/
def plainRun (inFlow : Bool) : List Char → Option (List Char)
  | [] => some []
  | c :: rest =>
    if isWhite c || isBreak c then some []
    else if inFlow && c == ':' && (rest.head?.any fun x => [',', '?', '[', ']', '\x7b', '\x7d'].contains x)
    then none
    else if (c == ':' && atGap rest) || (inFlow && [',', '[', ']', '\x7b', '\x7d'].contains c)
    then some []
    else (plainRun inFlow rest).map (c :: ·)

/-- A scalar that was read: its text, the cursor behind it, and whether a line was ended behind its
last character. -/
structure Scanned where
  text : List Char
  cursor : Cursor
  lineEnded : Bool := false

/-- Reads the words of a plain scalar; `gap` stands between `text` and the next word. Outside of
brackets a continuation line is indented by at least `least` columns. -/
def readPlain (inFlow : Bool) (least : Nat) : Nat → List Char → Gap → Cursor → Option Scanned
  | 0, _, _, _ => none
  | fuel + 1, text, gap, c =>
    if c.atDivider || c.rest.head? == some '#' then some ⟨text, c, gap.broken⟩
    else
      match plainRun inFlow c.rest with
      | none => none
      | some [] => some ⟨text, c, gap.broken⟩
      | some run =>
        let text := text ++ gap.text ++ run
        let c := c.advance run.length
        if c.rest.isEmpty || !atGap c.rest then some ⟨text, c, false⟩
        else
          match readGap (some least) c.rest.length {} c with
          | none => none
          | some (gap, c) =>
            if !inFlow && c.column < least then some ⟨text, c, gap.broken⟩
            else readPlain inFlow least fuel text gap c

/-! ## Quoted scalars -/

/-- A stretch of a quoted scalar: its text, the number of characters read, and whether it ended at a
backslash in front of a break. -/
structure Stretch where
  text : List Char
  length : Nat
  escapedBreak : Bool := false

def Stretch.push (n : Nat) (cs : List Char) (s : Stretch) : Stretch :=
  { s with text := cs ++ s.text, length := n + s.length }

/-- The stretch of a single-quoted scalar up to a gap or its closing quote; a doubled quote is a
quote. -/
def singleRun : List Char → Stretch
  | '\'' :: '\'' :: rest => (singleRun rest).push 2 ['\'']
  | c :: rest => if isWhite c || isBreak c || c == '\'' then ⟨[], 0, false⟩ else (singleRun rest).push 1 [c]
  | [] => ⟨[], 0, false⟩

/-- The character of a code point written in hexadecimal digits. -/
def hexChar? (ds : List Char) : Option Char := do
  let n ← ds.foldlM (fun n d => (Json.hexValue? d).map (n * 16 + ·)) 0
  if (0xD800 ≤ n ∧ n ≤ 0xDFFF) ∨ 0x10FFFF < n then none else some (Char.ofNat n)

/-- The character of an escape of one letter. -/
def simpleEscape? : Char → Option Char
  | '0' => some '\x00'
  | 'a' => some '\x07'
  | 'b' => some '\x08'
  | 't' | '\t' => some '\t'
  | 'n' => some '\n'
  | 'v' => some '\x0b'
  | 'f' => some '\x0c'
  | 'r' => some '\r'
  | 'e' => some '\x1b'
  | ' ' => some ' '
  | '"' => some '"'
  | '/' => some '/'
  | '\\' => some '\\'
  | 'N' => some (Char.ofNat 0x85)
  | '_' => some (Char.ofNat 0xA0)
  | 'L' => some (Char.ofNat 0x2028)
  | 'P' => some (Char.ofNat 0x2029)
  | _ => none

/-- The stretch of a double-quoted scalar up to a gap, its closing quote or an escaped break. -/
def doubleRun : List Char → Option Stretch
  | '\\' :: 'x' :: a :: b :: rest => do
    let c ← hexChar? [a, b]
    return (← doubleRun rest).push 4 [c]
  | '\\' :: 'u' :: a :: b :: c :: d :: rest => do
    let c ← hexChar? [a, b, c, d]
    return (← doubleRun rest).push 6 [c]
  | '\\' :: 'U' :: a :: b :: c :: d :: e :: f :: g :: h :: rest => do
    let c ← hexChar? [a, b, c, d, e, f, g, h]
    return (← doubleRun rest).push 10 [c]
  | '\\' :: c :: rest =>
    if isBreak c then some ⟨[], 0, true⟩
    else do
      let c ← simpleEscape? c
      return (← doubleRun rest).push 2 [c]
  | c :: rest =>
    if isWhite c || isBreak c || c == '"' then some ⟨[], 0, false⟩
    else (doubleRun rest).map fun s => s.push 1 [c]
  | [] => some ⟨[], 0, false⟩

/-- Reads a quoted scalar whose opening quote is read. -/
def readQuoted (quote : Char) (run : List Char → Option Stretch) :
    Nat → List Char → Cursor → Option Scanned
  | 0, _, _ => none
  | fuel + 1, text, c =>
    if c.atDivider then none
    else
      match run c.rest with
      | none => none
      | some s =>
        let text := text ++ s.text
        let c := c.advance s.length
        let c := if s.escapedBreak then (c.advance 1).nextLine else c
        match c.rest with
        | [] => none
        | x :: _ =>
          if x == quote then some ⟨text, c.advance 1, false⟩
          else
            match readGap none c.rest.length { broken := s.escapedBreak } c with
            | none => none
            | some (gap, c) => readQuoted quote run fuel (text ++ gap.text) c

/-! ## Blocks -/

/-- What happens to the breaks at the end of a block. -/
inductive Chomping
  | strip
  | clip
  | keep
deriving DecidableEq, Repr

/-- The indicators behind `|` or `>`: what happens to the last breaks, and the indentation if it is
given. -/
def readBlockHeader (cs : List Char) : Option (Chomping × Option Nat × Nat) :=
  let chomping? : Char → Option Chomping
    | '+' => some .keep
    | '-' => some .strip
    | _ => none
  let digit? (c : Char) : Option (Option Nat) :=
    if c.isDigit then if c == '0' then some none else some (some (c.toNat - '0'.toNat)) else none
  match cs with
  | [] => some (.clip, none, 0)
  | a :: rest =>
    match chomping? a, digit? a with
    | some ch, _ =>
      match rest.head?.bind digit? with
      | some none => none
      | some (some n) => some (ch, some n, 2)
      | none => some (ch, none, 1)
    | none, some none => none
    | none, some (some n) =>
      match rest.head?.bind chomping? with
      | some ch => some (ch, some n, 2)
      | none => some (.clip, some n, 1)
    | none, none => some (.clip, none, 0)

/-- Empty lines in a block: their breaks, the deepest column reached, and the cursor at the first
character that belongs to the block. A tab where indentation is expected is an error. -/
def readEmptyLines (indent : Option Nat) :
    Nat → List Char → Nat → Cursor → Option (List Char × Nat × Cursor)
  | 0, breaks, deepest, c => some (breaks, deepest, c)
  | fuel + 1, breaks, deepest, c =>
    let within (column : Nat) : Bool := indent.all fun n => decide (column < n)
    let spaces := (c.rest.takeWhile (· == ' ')).length
    let take := match indent with
      | none => spaces
      | some n => min spaces (n - c.column)
    let c := c.advance take
    let deepest := max deepest c.column
    if within c.column && c.rest.head? == some '\t' then none
    else if atBreak c.rest then readEmptyLines indent fuel (breaks ++ c.breakText) deepest c.nextLine
    else some (breaks, deepest, c)

/-- The lines of a block at column `indent`. `first` is the break that ended the line before and
`further` are the breaks of the empty lines behind it; `wasWhite` says whether that line started with
a blank. A folded block joins two lines that do not start with a blank by a space. -/
def readBlockLines (isLiteral : Bool) (indent : Nat) : Nat → List Char → List Char → List Char → Bool →
    Cursor → Option (List Char × List Char × List Char × Cursor)
  | 0, text, first, further, _, c => some (text, first, further, c)
  | fuel + 1, text, first, further, wasWhite, c =>
    if c.column != indent || c.rest.isEmpty then some (text, first, further, c)
    else
      let startsWhite := (c.rest.head?.any isWhite)
      let joined :=
        if !isLiteral && first.head? == some '\n' && !wasWhite && !startsWhite then
          if further.isEmpty then [' '] else []
        else first
      let line := c.rest.takeWhile fun x => !isBreak x
      let c := c.advance line.length
      let text := text ++ joined ++ further ++ line
      let first := c.breakText
      match readEmptyLines (some indent) c.rest.length [] 0 c.nextLine with
      | none => none
      | some (further, _, c) => readBlockLines isLiteral indent fuel text first further startsWhite c

/-- Reads a block scalar whose indicator is read. `parent` is the column of the collection around it,
-1 if there is none. -/
def readBlock (isLiteral : Bool) (parent : Int) (c : Cursor) : Option Scanned := do
  let (chomping, explicit, used) ← readBlockHeader c.rest
  let c := (c.advance used).skipWhite.skipComment
  if !atLineEnd c.rest then none
  else
    let c := c.nextLine
    let base : Option Nat := explicit.map fun n => if 0 ≤ parent then parent.toNat + n else n
    let (further, deepest, c) ← readEmptyLines base c.rest.length [] 0 c
    let indent := base.getD (max deepest (max (parent + 1).toNat 1))
    let (text, first, further, c) ←
      readBlockLines isLiteral indent (c.rest.length + 1) [] [] further false c
    let text := text ++
      (if chomping == .strip then [] else first) ++ (if chomping == .keep then further else [])
    return ⟨text, c, false⟩

end Statechart.Yaml
