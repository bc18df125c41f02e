import Statechart.Yaml.Scalar
import Statechart.Yaml.Tag
/-!
YAML tokens. Indentation becomes tokens of its own: a deeper column opens a block, a shallower one
closes it. A key without an indicator is only known as one when the colon behind it is met; its token
is then put in front of what was read since the place where the key may have started.
-/

namespace Statechart.Yaml

/-- A token. -/
inductive Token
  | streamEnd
  | version (major minor : Nat)
  | tagDirective (handle : String) (start : List UInt8)
  | documentStart
  | documentEnd
  | blockSequenceStart
  | blockMappingStart
  | blockEnd
  | flowSequenceStart
  | flowSequenceEnd
  | flowMappingStart
  | flowMappingEnd
  | blockEntry
  | flowEntry
  | key
  | value
  | alias (name : String)
  | anchor (name : String)
  | tag (handle : String) (suffix : List UInt8)
  | scalar (text : String) (style : Style)
deriving DecidableEq, Repr

/-! ## Names, tags and directives -/

/-- Reads the name of an anchor or alias: it is not empty and ends at a gap or an indicator. -/
def readAnchorName (c : Cursor) : Option (String × Cursor) :=
  let name := c.rest.takeWhile isNameChar
  let after := c.advance name.length
  let ends := match after.rest with
    | [] => true
    | x :: _ => atGap after.rest || ['?', ':', ',', ']', '\x7d', '%', '@', '\x60'].contains x
  if name.isEmpty || !ends then none else some (String.ofList name, after)

/-- The number of bytes in a UTF-8 sequence that starts with a given byte. -/
def sequenceWidth? (b : UInt8) : Option Nat :=
  if b < 0x80 then some 1
  else if b / 0x20 == 6 then some 2
  else if b / 0x10 == 14 then some 3
  else if b / 0x08 == 30 then some 4
  else none

/-- Reads `n` escaped bytes. -/
def readEscapedBytes : Nat → List Char → Option (List UInt8 × List Char)
  | 0, cs => some ([], cs)
  | n + 1, '%' :: a :: b :: rest => do
    let a ← Json.hexValue? a
    let b ← Json.hexValue? b
    let (bs, rest) ← readEscapedBytes n rest
    return (UInt8.ofNat (a * 16 + b) :: bs, rest)
  | _ + 1, _ => none

/-- Reads an escaped sequence of a tag: a lead byte and the bytes that it asks for, in hexadecimal.
The sequence need not encode a character. -/
def readEscapedSequence (cs : List Char) : Option (List UInt8 × List Char) := do
  let (lead, _) ← readEscapedBytes 1 cs
  let width ← lead.head?.bind sequenceWidth?
  let (bytes, rest) ← readEscapedBytes width cs
  if bytes.tail.all fun b => b / 0x40 == 2 then some (bytes, rest) else none

/-- May stand in a tag; the brackets and the comma only between angle brackets. -/
def isTagChar (verbatim : Bool) (c : Char) : Bool :=
  isNameChar c ||
    [';', '/', '?', ':', '@', '&', '=', '+', '$', '.', '%', '!', '~', '*', '\'', '(', ')'].contains c ||
    (verbatim && [',', '[', ']'].contains c)

/-- Reads the characters of a tag as bytes. -/
def readTagBytes (verbatim : Bool) : Nat → List Char → Option (List UInt8 × List Char)
  | 0, cs => some ([], cs)
  | fuel + 1, cs =>
    match cs with
    | [] => some ([], [])
    | c :: rest =>
      if c == '%' then do
        let (sequence, rest) ← readEscapedSequence cs
        let (bytes, rest) ← readTagBytes verbatim fuel rest
        return (sequence ++ bytes, rest)
      else if isTagChar verbatim c then do
        let (bytes, rest) ← readTagBytes verbatim fuel rest
        return (asciiBytes [c] ++ bytes, rest)
      else some ([], cs)

/-- The bytes of a tag, with the cursor behind them. -/
def readTagPart (verbatim : Bool) (c : Cursor) : Option (List UInt8 × Cursor) := do
  let (bytes, rest) ← readTagBytes verbatim c.rest.length c.rest
  return (bytes, c.advance (c.rest.length - rest.length))

/-- Reads the handle of a tag: an exclamation mark, name characters, and perhaps another mark. -/
def readTagHandle (c : Cursor) : Option (List Char × Cursor) :=
  match c.rest with
  | '!' :: rest =>
    let name := rest.takeWhile isNameChar
    let handle := '!' :: name ++ if (rest.drop name.length).head? == some '!' then ['!'] else []
    some (handle, c.advance handle.length)
  | _ => none

/-- Reads a tag. -/
def readTag (inFlow : Bool) (c : Cursor) : Option (Token × Cursor) := do
  let (token, c) ← match c.rest with
    | '!' :: '<' :: _ => do
      let (suffix, c) ← readTagPart true (c.advance 2)
      if suffix.isEmpty || c.rest.head? != some '>' then none
      else some (Token.tag "" (keptBytes suffix), c.advance 1)
    | _ => do
      let (handle, c) ← readTagHandle c
      if 1 < handle.length && handle.getLast? == some '!' then do
        let (suffix, c) ← readTagPart false c
        if suffix.isEmpty then none
        else some (Token.tag (String.ofList handle) (keptBytes suffix), c)
      else do
        let (more, c) ← readTagPart false c
        let suffix := keptBytes (asciiBytes handle.tail ++ more)
        if suffix.isEmpty then some (Token.tag "" [ownMark], c)
        else some (Token.tag "!" suffix, c)
  if (inFlow && c.rest.head? == some ',') || atGap c.rest then some (token, c) else none

/-- Reads a decimal number of at most nine digits. -/
def readVersionNumber (c : Cursor) : Option (Nat × Cursor) :=
  let ds := c.rest.takeWhile Char.isDigit
  if ds.isEmpty || 9 < ds.length then none
  else some (Json.natOfDigits (ds.map Json.digitValue), c.advance ds.length)

/-- Reads what a tag directive says: a handle and the text it stands for. -/
def readTagDirective (c : Cursor) : Option (Token × Cursor) := do
  let (handle, c) ← readTagHandle c.skipWhite
  if handle != ['!'] && (handle.length < 2 || handle.getLast? != some '!') then none
  else if !(c.rest.head?.any isWhite) then none
  else do
    let (start, c) ← readTagPart true c.skipWhite
    if start.isEmpty || !atGap c.rest then none
    else some (Token.tagDirective (String.ofList handle) (keptBytes start), c)

/-- Reads a directive, up to and including its break. -/
def readDirective (c : Cursor) : Option (Token × Cursor) := do
  let c := c.advance 1
  let name := c.rest.takeWhile isNameChar
  let c := c.advance name.length
  if name.isEmpty || !atGap c.rest then none
  else do
    let (token, c) ←
      if name == "YAML".toList then do
        let (major, c) ← readVersionNumber c.skipWhite
        if c.rest.head? != some '.' then none
        else do
          let (minor, c) ← readVersionNumber (c.advance 1)
          some (Token.version major minor, c)
      else if name == "TAG".toList then readTagDirective c
      else none
    let c := c.skipWhite.skipComment
    if atLineEnd c.rest then some (token, c.nextLine) else none

/-! ## The state between tokens -/

/-- A place where a key without an indicator may have started: the number of tokens before it and its
position. A required key has to be followed by a colon. -/
structure SimpleKey where
  tokenCount : Nat
  index : Nat
  line : Nat
  column : Nat
  required : Bool

/-- What is known between two tokens. `keys` holds the possible key of every open flow collection,
innermost first, and at last the one outside of them. -/
structure Lexer where
  cursor : Cursor
  tokens : Array Token := #[]
  indent : Int := -1
  indents : List Int := []
  keyAllowed : Bool := true
  keys : List (Option SimpleKey) := [none]

namespace Lexer

def inFlow (s : Lexer) : Bool := 1 < s.keys.length

def push (s : Lexer) (t : Token) : Lexer := { s with tokens := s.tokens.push t }

/-- Puts a token in front of those read since there were `position` tokens. -/
def insertAt (s : Lexer) (position : Nat) (t : Token) : Lexer :=
  { s with
    tokens := (s.tokens.extract 0 position).push t ++ s.tokens.extract position s.tokens.size }

/-- Passes over a byte order mark, which may stand at the start of every line. It takes a column. -/
def skipMark (c : Cursor) : Cursor :=
  if c.column == 0 && c.rest.head? == some '\uFEFF' then c.advance 1 else c

/-- Passes over blanks, comments and breaks. A tab is a blank only where no key may start. -/
def skipGap : Nat → Lexer → Lexer
  | 0, s => s
  | fuel + 1, s =>
    let tabs := s.inFlow || !s.keyAllowed
    let c := skipMark s.cursor
    let n := (c.rest.takeWhile fun x => x == ' ' || (tabs && x == '\t')).length
    let c := (c.advance n).skipComment
    if atBreak c.rest then
      skipGap fuel { s with cursor := c.nextLine, keyAllowed := s.keyAllowed || !s.inFlow }
    else { s with cursor := c }

/-- Forgets the possible keys that are too far back: a key stands on one line and has at most 1024
bytes. A required key must not be forgotten. -/
def dropStale (s : Lexer) : Option Lexer := do
  let keys ← s.keys.mapM fun
    | none => some none
    | some k =>
      if k.line < s.cursor.line || k.index + 1024 < s.cursor.index then
        if k.required then none else some none
      else some (some k)
  return { s with keys }

/-- Forgets the possible key of the innermost collection. -/
def dropKey (s : Lexer) : Option Lexer :=
  match s.keys with
  | some k :: rest => if k.required then none else some { s with keys := none :: rest }
  | _ => some s

/-- Remembers that a key may start here. -/
def saveKey (s : Lexer) : Option Lexer :=
  if s.keyAllowed then do
    let s ← s.dropKey
    let k : SimpleKey :=
      { tokenCount := s.tokens.size
        index := s.cursor.index
        line := s.cursor.line
        column := s.cursor.column
        required := !s.inFlow && s.indent == (s.cursor.column : Int) }
    return { s with keys := some k :: s.keys.tail }
  else some s

/-- Opens a block at a deeper column, in front of the tokens read since `position`. -/
def indentTo (s : Lexer) (column : Nat) (position : Nat) (t : Token) : Lexer :=
  if !s.inFlow && s.indent < column then
    { s.insertAt position t with indent := column, indents := s.indent :: s.indents }
  else s

/-- Closes the blocks deeper than a column. -/
def closeBlocks (column : Int) : List Int → Lexer → Lexer
  | [], s => s
  | i :: rest, s =>
    if column < s.indent then
      closeBlocks column rest { s.push .blockEnd with indent := i, indents := rest }
    else s

def unindent (s : Lexer) (column : Int) : Lexer :=
  if s.inFlow then s else closeBlocks column s.indents s

/-! ## One token -/

/-- A token of `n` characters that ends all blocks. -/
def readDivider (s : Lexer) (t : Token) : Option Lexer := do
  let s ← (s.unindent (-1)).dropKey
  return { s.push t with cursor := s.cursor.advance 3, keyAllowed := false }

def readFlowStart (s : Lexer) (t : Token) : Option Lexer := do
  let s ← s.saveKey
  return { s.push t with cursor := s.cursor.advance 1, keyAllowed := true, keys := none :: s.keys }

def readFlowEnd (s : Lexer) (t : Token) : Option Lexer := do
  let s ← s.dropKey
  return { s.push t with
    cursor := s.cursor.advance 1
    keyAllowed := false
    keys := if s.inFlow then s.keys.tail else s.keys }

def readFlowEntry (s : Lexer) : Option Lexer := do
  let s ← s.dropKey
  return { s.push .flowEntry with cursor := s.cursor.advance 1, keyAllowed := true }

def readBlockEntry (s : Lexer) : Option Lexer := do
  if !s.inFlow && !s.keyAllowed then none
  else
    let s ← (s.indentTo s.cursor.column s.tokens.size .blockSequenceStart).dropKey
    return { s.push .blockEntry with cursor := s.cursor.advance 1, keyAllowed := true }

def readKey (s : Lexer) : Option Lexer := do
  if !s.inFlow && !s.keyAllowed then none
  else
    let s ← (s.indentTo s.cursor.column s.tokens.size .blockMappingStart).dropKey
    return { s.push .key with cursor := s.cursor.advance 1, keyAllowed := !s.inFlow }

def readValue (s : Lexer) : Option Lexer :=
  match s.keys with
  | some k :: rest =>
    let s := (s.insertAt k.tokenCount .key).indentTo k.column k.tokenCount .blockMappingStart
    some { s.push .value with
      cursor := s.cursor.advance 1
      keyAllowed := false
      keys := none :: rest }
  | _ =>
    if !s.inFlow && !s.keyAllowed then none
    else
      let s := s.indentTo s.cursor.column s.tokens.size .blockMappingStart
      some { s.push .value with cursor := s.cursor.advance 1, keyAllowed := !s.inFlow }

/-- An alias or an anchor. -/
def readName (s : Lexer) (token : String → Token) : Option Lexer := do
  let s ← s.saveKey
  let (name, c) ← readAnchorName (s.cursor.advance 1)
  return { s.push (token name) with cursor := c, keyAllowed := false }

def readTagToken (s : Lexer) : Option Lexer := do
  let s ← s.saveKey
  let (t, c) ← readTag s.inFlow s.cursor
  return { s.push t with cursor := c, keyAllowed := false }

def pushScalar (s : Lexer) (r : Scanned) (style : Style) (keyAllowed : Bool) : Lexer :=
  { s.push (.scalar (String.ofList r.text) style) with cursor := r.cursor, keyAllowed }

def readBlockScalar (s : Lexer) (style : Style) : Option Lexer := do
  let s ← s.dropKey
  let r ← readBlock (style == .literal) s.indent (s.cursor.advance 1)
  return s.pushScalar r style true

def readQuotedScalar (s : Lexer) (style : Style) : Option Lexer := do
  let s ← s.saveKey
  let c := s.cursor.advance 1
  let r ← match style with
    | .singleQuoted => readQuoted '\'' (fun cs => some (singleRun cs)) (c.rest.length + 1) [] c
    | _ => readQuoted '"' doubleRun (c.rest.length + 1) [] c
  return s.pushScalar r style false

def readPlainScalar (s : Lexer) : Option Lexer := do
  let s ← s.saveKey
  let c := s.cursor
  let r ← readPlain s.inFlow (s.indent + 1).toNat (c.rest.length + 1) [] {} c
  return s.pushScalar r .plain r.lineEnded

/-- A plain scalar may start here: with no indicator, or with one that is not followed by a gap. -/
def atPlain (s : Lexer) : Bool :=
  match s.cursor.rest with
  | [] => false
  | c :: rest =>
    let indicators :=
      ['-', '?', ':', ',', '[', ']', '\x7b', '\x7d', '#', '&', '*', '!', '|', '>', '\'', '"', '%', '@',
        '\x60']
    !(isWhite c || isBreak c || indicators.contains c) ||
      (c == '-' && !(rest.head?.any isWhite)) ||
      (!s.inFlow && (c == '?' || c == ':') && !atGap rest)

/-- Reads the token that stands at the cursor. -/
def read (s : Lexer) (c : Char) (rest : List Char) : Option Lexer :=
  if s.cursor.column == 0 && c == '%' then do
    let s ← (s.unindent (-1)).dropKey
    let (t, cursor) ← readDirective s.cursor
    return { s.push t with cursor, keyAllowed := false }
  else if s.cursor.atDivider then s.readDivider (if c == '-' then .documentStart else .documentEnd)
  else
    match c with
    | '[' => s.readFlowStart .flowSequenceStart
    | '\x7b' => s.readFlowStart .flowMappingStart
    | ']' => s.readFlowEnd .flowSequenceEnd
    | '\x7d' => s.readFlowEnd .flowMappingEnd
    | ',' => s.readFlowEntry
    | '*' => s.readName .alias
    | '&' => s.readName .anchor
    | '!' => s.readTagToken
    | '\'' => s.readQuotedScalar .singleQuoted
    | '"' => s.readQuotedScalar .doubleQuoted
    | _ =>
      if c == '-' && atGap rest then s.readBlockEntry
      else if c == '?' && (s.inFlow || atGap rest) then s.readKey
      else if c == ':' && (s.inFlow || atGap rest) then s.readValue
      else if c == '|' && !s.inFlow then s.readBlockScalar .literal
      else if c == '>' && !s.inFlow then s.readBlockScalar .folded
      else if s.atPlain then s.readPlainScalar
      else none

/-- Reads the tokens up to the end of the text; none where the text is not well formed. -/
def readAll : Nat → Lexer → Option (List Token)
  | 0, _ => none
  | fuel + 1, s => do
    let s ← (skipGap (s.cursor.rest.length + 1) s).dropStale
    match s.cursor.rest with
    | [] =>
      let s ← (s.unindent (-1)).dropKey
      return (s.push .streamEnd).tokens.toList
    | c :: rest =>
      let s ← (s.unindent s.cursor.column).read c rest
      readAll fuel s

end Lexer

/-- The tokens of a text. -/
def Token.list? (text : String) : Option (List Token) :=
  let cs := text.toList
  if cs.all isAllowed then Lexer.readAll (cs.length + 2) { cursor := { rest := cs } } else none

end Statechart.Yaml
