import Statechart.Json.Reader
/-!
What a plain scalar means. Only the words for null and the truth values and the spellings of numbers
are special; everything else is a string. Digits behind a leading zero are a string as well.
-/

namespace Statechart.Yaml

open Json (Double)

/-- The meaning of a scalar. An integer with a minus sign is kept apart, since it is no position; a
`huge` integer is outside the range of 64-bit words but fits into 128 bits. -/
inductive Resolved
  | null
  | bool (b : Bool)
  | natural (n : Nat) (h : n < 0x10000000000000000)
  | negative (n : Nat) (h : n ≤ 0x8000000000000000)
  | huge
  | double (d : Double)
  | nonFinite
  | string (s : String)

/-- The words for null. -/
def isNullWord (s : String) : Bool := ["null", "Null", "NULL", "~"].contains s

/-- The words for the truth values. -/
def boolWord? (s : String) : Option Bool :=
  if ["true", "True", "TRUE"].contains s then some true
  else if ["false", "False", "FALSE"].contains s then some false
  else none

/-- Drops one sign. -/
def dropSign : List Char → List Char
  | '+' :: rest | '-' :: rest => rest
  | cs => cs

/-- Two digits or more, the first of them a zero. -/
def isZeroPadded (cs : List Char) : Bool :=
  match dropSign cs with
  | '0' :: c :: rest => (c :: rest).all Char.isDigit
  | _ => false

/-- The value of digits in a base up to sixteen; there is at least one. -/
def natInBase? (base : Nat) (cs : List Char) : Option Nat :=
  if cs.isEmpty then none
  else cs.foldlM (fun n c => do
    let d ← Json.hexValue? c
    if d < base then some (n * base + d) else none) 0

/-- The digits behind a prefix for a base. -/
def basePrefix? : List Char → Option (Nat × List Char)
  | '0' :: 'x' :: rest => some (16, rest)
  | '0' :: 'o' :: rest => some (8, rest)
  | '0' :: 'b' :: rest => some (2, rest)
  | _ => none

/-- The magnitude of an integer without its sign. -/
def magnitude? (cs : List Char) : Option Nat :=
  match basePrefix? cs with
  | some (base, rest) => natInBase? base rest
  | none => natInBase? 10 cs

/-- An integer: whether it has a minus sign, and its magnitude. A minus sign with nothing but zeros
behind it keeps its sign. -/
def integer? (cs : List Char) : Option (Bool × Nat) :=
  if isZeroPadded cs then none
  else
    match cs with
    | '-' :: rest => (magnitude? rest).map (true, ·)
    | '+' :: rest => (magnitude? rest).map (false, ·)
    | cs => (magnitude? cs).map (false, ·)

/-- The float nearest to a decimal; none if it is out of range. -/
def nearestFloat? (negative : Bool) (whole fraction : List Nat) (exponent : Int) : Option Double :=
  let m := Json.natOfDigits (whole ++ fraction)
  let e := exponent - fraction.length
  let size : Int := (Json.digitsOf m).length
  let f :=
    if m = 0 ∨ e + size < -400 then 0.0
    else if 400 < e + size then (1.0 : Float) / 0.0
    else Float.ofScientific m (decide (e < 0)) e.natAbs
  Double.ofFloat? (if negative then -f else f)

/-- A decimal without its sign: digits with or without a point, at least one digit, and perhaps an
exponent. -/
def decimal? (negative : Bool) (cs : List Char) : Option Double := do
  let (whole, rest) := Json.spanDigits cs
  let (fraction, rest) := match rest with
    | '.' :: rest => Json.spanDigits rest
    | rest => ([], rest)
  if whole.isEmpty && fraction.isEmpty then none
  else
    match ← Json.readExponent rest with
    | (none, []) => nearestFloat? negative whole fraction 0
    | (some (negativeExponent, ds), []) =>
      let e : Int := Json.natOfDigits ds
      nearestFloat? negative whole fraction (if negativeExponent then -e else e)
    | _ => none

/-- The meaning of a spelling of a floating number. -/
def float? (s : String) : Option Resolved :=
  if [".inf", ".Inf", ".INF", "+.inf", "+.Inf", "+.INF", "-.inf", "-.Inf", "-.INF", ".nan", ".NaN",
      ".NAN"].contains s then some .nonFinite
  else
    match s.toList with
    | '+' :: '+' :: _ | '+' :: '-' :: _ => none
    | '+' :: rest => (decimal? false rest).map .double
    | '-' :: rest => (decimal? true rest).map .double
    | cs => (decimal? false cs).map .double

/-- The meaning of a spelling of an integer. Beyond 128 bits it is not read as an integer. -/
def integerMeaning? (s : String) : Option Resolved := do
  let (negative, n) ← integer? s.toList
  if negative then
    if h : n ≤ 0x8000000000000000 then some (.negative n h)
    else if n ≤ 0x80000000000000000000000000000000 then some .huge
    else none
  else if h : n < 0x10000000000000000 then some (.natural n h)
  else if n < 0x100000000000000000000000000000000 then some .huge
  else none

/-- The meaning of a plain scalar. -/
def resolve (s : String) : Resolved :=
  if s.isEmpty || isNullWord s then .null
  else
    match boolWord? s with
    | some b => .bool b
    | none =>
      match integerMeaning? s with
      | some r => r
      | none =>
        if isZeroPadded s.toList then .string s
        else (float? s).getD (.string s)

end Statechart.Yaml
