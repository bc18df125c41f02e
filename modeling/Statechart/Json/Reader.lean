import Statechart.Json.Document
/-!
Reading JSON text. A reader takes the characters that are left and gives a document and what it did
not read. Every numeral and string that is well formed is read; one without a value becomes an
unreadable leaf, so that a field nobody looks at does not spoil the text around it.
-/

namespace Statechart.Json

/-- The blanks between tokens. -/
def isSpace (c : Char) : Bool := c == ' ' || c == '\t' || c == '\n' || c == '\r'

/-- What is left after the blanks. -/
def skipSpace (cs : List Char) : List Char := cs.dropWhile isSpace

/-! ## Numerals -/

/-- The parts of a numeral: its sign, the digits before the point, those behind it, and the exponent
with its sign. -/
structure Numeral where
  negative : Bool
  whole : List Nat
  fraction : List Nat
  exponent : Option (Bool × List Nat)
deriving Repr, DecidableEq

def digitValue (c : Char) : Nat := c.toNat - '0'.toNat

/-- The leading digits, and what follows them. -/
def spanDigits (cs : List Char) : List Nat × List Char :=
  ((cs.takeWhile Char.isDigit).map digitValue, cs.dropWhile Char.isDigit)

/-- The digits behind a point, if there is a point; there is at least one. -/
def readFraction (cs : List Char) : Option (List Nat × List Char) :=
  match cs with
  | '.' :: rest =>
    match spanDigits rest with
    | ([], _) => none
    | (ds, rest) => some (ds, rest)
  | cs => some ([], cs)

/-- The exponent, if there is one; it has at least one digit. -/
def readExponent (cs : List Char) : Option (Option (Bool × List Nat) × List Char) :=
  let digits (negative : Bool) (cs : List Char) :=
    match spanDigits cs with
    | ([], _) => none
    | (ds, rest) => some (some (negative, ds), rest)
  match cs with
  | 'e' :: '-' :: rest | 'E' :: '-' :: rest => digits true rest
  | 'e' :: '+' :: rest | 'E' :: '+' :: rest => digits false rest
  | 'e' :: rest | 'E' :: rest => digits false rest
  | cs => some (none, cs)

/-- A numeral without its sign: no zero stands before another digit. -/
def readUnsigned (negative : Bool) (cs : List Char) : Option (Numeral × List Char) :=
  match spanDigits cs with
  | ([], _) => none
  | (0 :: _ :: _, _) => none
  | (whole, rest) => do
    let (fraction, rest) ← readFraction rest
    let (exponent, rest) ← readExponent rest
    return (⟨negative, whole, fraction, exponent⟩, rest)

/-- The largest significand that is kept. -/
def maxSignificand : Nat := 0xFFFFFFFFFFFFFFFF

/-- The largest exponent that is kept. -/
def maxExponent : Nat := 0x7FFFFFFF

/-- Takes digits into a significand as long as it fits; the rest of the digits is given back. -/
def gather (limit : Nat) (significand : Nat) : List Nat → Nat × List Nat
  | [] => (significand, [])
  | d :: rest =>
    if significand * 10 + d ≤ limit then gather limit (significand * 10 + d) rest
    else (significand, d :: rest)

/-- Divides by `10 ^ 308` until the exponent is in reach of one power of ten, then applies that power;
an infinite product is none. -/
def scaleFloat : Nat → Float → Int → Option Float
  | 0, f, _ => some f
  | steps + 1, f, e =>
    if e.natAbs ≤ 308 then
      let power := Float.ofScientific 1 false e.natAbs
      if 0 ≤ e then
        let product := f * power
        if product.isInf then none else some product
      else some (f / power)
    else if f == 0.0 then some f
    else if 0 ≤ e then none
    else scaleFloat steps (f / Float.ofScientific 1 false 308) (e + 308)

/-- The number of a significand and a power of ten, by one rounded operation per 308 places. -/
def floatOf (negative : Bool) (significand : Nat) (exponent : Int) : Option Number := do
  let f ← scaleFloat 4 significand.toUInt64.toFloat exponent
  let d ← Double.ofFloat? (if negative then -f else f)
  return .double d

/-- The floating value of a numeral: digits that do not fit are dropped, before the point at the price
of a greater exponent. -/
def Numeral.float? (n : Numeral) : Option Number :=
  let (significand, dropped) := gather maxSignificand 0 n.whole
  let (significand, unread) := gather maxSignificand significand n.fraction
  let exponent : Int := dropped.length - (n.fraction.length - unread.length : Nat)
  match n.exponent with
  | none => floatOf n.negative significand exponent
  | some (negativeExponent, ds) =>
    match gather maxExponent 0 ds with
    | (e, []) =>
      floatOf n.negative significand (if negativeExponent then exponent - e else exponent + e)
    | (_, _ :: _) =>
      if significand ≠ 0 ∧ ¬ negativeExponent then none else floatOf n.negative 0 0

/-- The natural number with the given digits. -/
def natOfDigits (ds : List Nat) : Nat := ds.foldl (fun n d => n * 10 + d) 0

/-- The number of a numeral. A whole numeral is an integer if it fits; a zero with a minus sign and
everything else is a floating number. None if that is out of range. -/
def Numeral.number? (n : Numeral) : Option Number :=
  match n.fraction, n.exponent with
  | [], none =>
    let m := natOfDigits n.whole
    if n.negative then
      if h : 0 < m ∧ m ≤ 0x8000000000000000 then some (.integer (-m) (by omega)) else n.float?
    else if h : m < 0x10000000000000000 then some (.ofNat m h)
    else n.float?
  | _, _ => n.float?

/-- A number, or an unreadable leaf where the numeral is out of range. -/
def readNumber (cs : List Char) : Option (Document × List Char) := do
  let (n, rest) ← match cs with
    | '-' :: rest => readUnsigned true rest
    | cs => readUnsigned false cs
  return (match n.number? with
    | some x => .number x
    | none => .unreadable, rest)

/-! ## Strings -/

def hexValue? (c : Char) : Option Nat :=
  if '0' ≤ c ∧ c ≤ '9' then some (c.toNat - '0'.toNat)
  else if 'a' ≤ c ∧ c ≤ 'f' then some (c.toNat - 'a'.toNat + 10)
  else if 'A' ≤ c ∧ c ≤ 'F' then some (c.toNat - 'A'.toNat + 10)
  else none

/-- Four hexadecimal digits. -/
def hexUnit? (a b c d : Char) : Option Nat := do
  let a ← hexValue? a
  let b ← hexValue? b
  let c ← hexValue? c
  let d ← hexValue? d
  return ((a * 16 + b) * 16 + c) * 16 + d

/-- One element of a string: a character, or a code unit that was written as an escape. -/
inductive Piece
  | char (c : Char)
  | unit (n : Nat)

/-- The pieces of a string up to its closing quote, and what follows. -/
def readPieces : List Char → Option (List Piece × List Char)
  | [] => none
  | '"' :: rest => some ([], rest)
  | '\\' :: 'u' :: a :: b :: c :: d :: rest => do
    let n ← hexUnit? a b c d
    let (ps, rest) ← readPieces rest
    return (.unit n :: ps, rest)
  | '\\' :: c :: rest => do
    let c ← match c with
      | '"' => some '"'
      | '\\' => some '\\'
      | '/' => some '/'
      | 'b' => some '\x08'
      | 'f' => some '\x0c'
      | 'n' => some '\n'
      | 'r' => some '\r'
      | 't' => some '\t'
      | _ => none
    let (ps, rest) ← readPieces rest
    return (.char c :: ps, rest)
  | c :: rest =>
    if c.toNat < 0x20 then none
    else do
      let (ps, rest) ← readPieces rest
      return (.char c :: ps, rest)

/-- The characters of the pieces; a surrogate without its partner has none. -/
def decodePieces : List Piece → Option (List Char)
  | [] => some []
  | .char c :: rest => do
    let cs ← decodePieces rest
    return c :: cs
  | [.unit n] => if 0xD800 ≤ n ∧ n < 0xE000 then none else some [Char.ofNat n]
  | .unit n :: .char c :: rest =>
    if 0xD800 ≤ n ∧ n < 0xE000 then none
    else do
      let cs ← decodePieces rest
      return Char.ofNat n :: c :: cs
  | .unit n :: .unit m :: rest =>
    if 0xD800 ≤ n ∧ n < 0xDC00 then
      if 0xDC00 ≤ m ∧ m < 0xE000 then do
        let cs ← decodePieces rest
        return Char.ofNat (0x10000 + (n - 0xD800) * 0x400 + (m - 0xDC00)) :: cs
      else none
    else if 0xDC00 ≤ n ∧ n < 0xE000 then none
    else do
      let cs ← decodePieces (.unit m :: rest)
      return Char.ofNat n :: cs

/-- A string whose opening quote is already read: its text, none where half a surrogate pair stands
alone, and what follows. -/
def readString (cs : List Char) : Option (Option String × List Char) := do
  let (ps, rest) ← readPieces cs
  return ((decodePieces ps).map String.ofList, rest)

/-! ## Documents -/

/-- What follows a given word. -/
def expect (word : List Char) (cs : List Char) : Option (List Char) :=
  if word.isPrefixOf cs then some (cs.drop word.length) else none

mutual

/-- A document, after blanks. -/
def readDocument : Nat → List Char → Option (Document × List Char)
  | 0, _ => none
  | fuel + 1, cs =>
    match skipSpace cs with
    | '"' :: rest => do
      let (s, rest) ← readString rest
      return (match s with
        | some s => .string s
        | none => .unreadable, rest)
    | '[' :: rest =>
      match skipSpace rest with
      | ']' :: rest => some (.array [], rest)
      | rest => do
        let (items, rest) ← readItems fuel rest
        return (.array items, rest)
    | '{' :: rest =>
      match skipSpace rest with
      | '}' :: rest => some (.object [], rest)
      | rest => do
        let (entries, rest) ← readEntries fuel rest
        return (match entries with
          | some entries => .object entries
          | none => .unreadable, rest)
    | 'n' :: rest => (expect ['u', 'l', 'l'] rest).map fun rest => (.null, rest)
    | 't' :: rest => (expect ['r', 'u', 'e'] rest).map fun rest => (.bool true, rest)
    | 'f' :: rest => (expect ['a', 'l', 's', 'e'] rest).map fun rest => (.bool false, rest)
    | cs => readNumber cs

/-- The items of an array and its closing bracket. -/
def readItems : Nat → List Char → Option (List Document × List Char)
  | 0, _ => none
  | fuel + 1, cs => do
    let (d, rest) ← readDocument fuel cs
    match skipSpace rest with
    | ',' :: rest =>
      let (ds, rest) ← readItems fuel rest
      return (d :: ds, rest)
    | ']' :: rest => return ([d], rest)
    | _ => none

/-- The entries of an object and its closing brace; none where a key has no text. -/
def readEntries : Nat → List Char → Option (Option (List (Key × Document)) × List Char)
  | 0, _ => none
  | fuel + 1, cs => do
    let .some (key, rest) := (match skipSpace cs with
      | '"' :: rest => readString rest
      | _ => none) | none
    let ':' :: rest := skipSpace rest | none
    let (d, rest) ← readDocument fuel rest
    let entry := key.map fun name => (Key.text name, d)
    match skipSpace rest with
    | ',' :: rest =>
      let (entries, rest) ← readEntries fuel rest
      return (entry.bind fun e => entries.map (e :: ·), rest)
    | '}' :: rest => return (entry.map ([·]), rest)
    | _ => none

end

/-- The document of a whole text. -/
def Document.parse? (text : String) : Option Document :=
  let cs := text.toList
  match readDocument (2 * cs.length + 2) cs with
  | some (d, rest) => if (skipSpace rest).isEmpty then some d else none
  | none => none

/-- How many arrays and objects may stand inside each other in a text. -/
def maxLevels : Nat := 127

/-- The value of a whole text. -/
def Value.parse? (text : String) : Option Value := do
  let d ← Document.parse? text
  if d.readable maxLevels then d.fold? else none

end Statechart.Json
