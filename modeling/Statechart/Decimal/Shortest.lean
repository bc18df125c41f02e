/-!
The shortest decimal that reads back as a given binary number. A binary number `m · 2 ^ q` stands for
every real number that rounds to it; of the decimals in that interval the one with the fewest digits
is taken, and of those the nearest.
-/

namespace Statechart

/-- A power of two. -/
def twoTo (n : Nat) : Nat := Nat.pow 2 n

/-- A power of ten. -/
def tenTo (n : Nat) : Nat := Nat.pow 10 n

/-- The number `digits · 10 ^ exponent`. -/
structure Decimal where
  digits : Nat
  exponent : Int
deriving DecidableEq, Repr

/-- The reals that round to one binary number, and the number itself, over one denominator:
`low / den ≤ value / den ≤ high / den`. The ends belong to the interval if `closed` holds. -/
structure RoundingInterval where
  low : Nat
  value : Nat
  high : Nat
  den : Nat
  closed : Bool
deriving Repr

namespace RoundingInterval

/-- The interval of `m · 2 ^ q`. Where `m` is the least significand of its binade, the neighbour
below is only half as far away. -/
def ofBinary (m : Nat) (q : Int) (leastSignificand : Bool) : RoundingInterval :=
  let scale := twoTo (q - 2).toNat
  { low := (4 * m - if leastSignificand then 1 else 2) * scale
    value := 4 * m * scale
    high := (4 * m + 2) * scale
    den := twoTo (2 - q).toNat
    closed := m % 2 == 0 }

/-- The point `c · 10 ^ unit` lies in the interval. -/
def holds (r : RoundingInterval) (c : Nat) (unit : Int) : Bool :=
  let point := c * (r.den * tenTo unit.toNat)
  let up := tenTo (-unit).toNat
  if r.closed then r.low * up ≤ point && point ≤ r.high * up
  else r.low * up < point && point < r.high * up

/-- The nearest point of the grid `10 ^ unit` in the interval; a tie goes to the even digit. -/
def nearest? (r : RoundingInterval) (unit : Int) : Option Nat :=
  let a := r.value * tenTo (-unit).toNat
  let b := r.den * tenTo unit.toNat
  let c := a / b
  match r.holds c unit, r.holds (c + 1) unit with
  | true, true =>
    let below := a - c * b
    let above := (c + 1) * b - a
    some (if below < above || (below == above && c % 2 == 0) then c else c + 1)
  | true, false => some c
  | false, true => some (c + 1)
  | false, false => none

/-- The first grid with a point in the interval, from `10 ^ unit` on towards finer grids. -/
def firstHit (r : RoundingInterval) : Nat → Int → Decimal
  | 0, unit => ⟨(r.nearest? unit).getD 0, unit⟩
  | steps + 1, unit =>
    match r.nearest? unit with
    | some c => ⟨c, unit⟩
    | none => firstHit r steps (unit - 1)

/-- The number of decimal digits before the point of `n / d`, at least one. -/
def wholeDigits (n d : Nat) : Nat := (Nat.toDigits 10 (n / d)).length

/-- The exponent of the leading decimal digit of a positive `n / d`. -/
def leadingExponent (n d : Nat) : Int :=
  if d ≤ n then wholeDigits n d - 1
  else
    let k := wholeDigits d n
    if d ≤ n * tenTo (k - 1) then -(k - 1 : Int) else -k

end RoundingInterval

namespace Decimal

/-- Drops the zeros at the end of the digits; `steps` bounds their number. -/
def dropZeros : Nat → Decimal → Decimal
  | 0, d => d
  | steps + 1, d =>
    if d.digits != 0 && d.digits % 10 == 0 then dropZeros steps ⟨d.digits / 10, d.exponent + 1⟩ else d

/-- The shortest decimal that reads back as the positive number `m · 2 ^ q`. -/
def shortest (m : Nat) (q : Int) (leastSignificand : Bool) : Decimal :=
  let r := RoundingInterval.ofBinary m q leastSignificand
  dropZeros 20 (r.firstHit 17 (RoundingInterval.leadingExponent r.value r.den))

end Decimal

end Statechart
