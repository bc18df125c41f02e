import Statechart.Decimal.Shortest
/-!
Numbers of a JSON document: an integer in the range of 64-bit words, signed or unsigned, or a finite
binary number of 64 bits. A binary number is printed by its shortest decimal: with a point where the
leading digit stands between `10 ^ -5` and `10 ^ 15`, else with an exponent.
-/

namespace Statechart.Json

/-- A finite binary number of 64 bits, held by its bits, so that the two zeros are told apart. -/
structure Double where
  bits : UInt64
  finite : (bits >>> 52) &&& 0x7FF ≠ 0x7FF
deriving DecidableEq

namespace Double

/-- The number of a float, if it is finite. -/
def ofFloat? (x : Float) : Option Double :=
  if h : (x.toBits >>> 52) &&& 0x7FF ≠ 0x7FF then some ⟨x.toBits, h⟩ else none

def isNegative (d : Double) : Bool := d.bits >>> 63 == 1

/-- The biased exponent. -/
def biased (d : Double) : Nat := ((d.bits >>> 52) &&& 0x7FF).toNat

/-- The bits of the significand below the leading one. -/
def fraction (d : Double) : Nat := (d.bits &&& 0xFFFFFFFFFFFFF).toNat

/-- The shortest decimal of the number without its sign, none for a zero. -/
def magnitude? (d : Double) : Option Decimal :=
  if d.biased = 0 then
    if d.fraction = 0 then none else some (Decimal.shortest d.fraction (-1074) false)
  else
    some (Decimal.shortest (0x10000000000000 + d.fraction) (d.biased - 1075)
      (d.fraction == 0 && decide (1 < d.biased)))

end Double

/-- A number of a JSON document; an integer lies between the least signed and the greatest unsigned
word. -/
inductive Number
  | integer (value : Int) (inRange : -0x8000000000000000 ≤ value ∧ value < 0x10000000000000000)
  | double (value : Double)
deriving DecidableEq

/-- Decimal digits of a natural number. -/
def digitsOf (n : Nat) : List Char := Nat.toDigits 10 n

/-- The leading digits written with a point keep their place value down to `10 ^ -5`. -/
def leastPositional : Int := -5

/-- And up to `10 ^ 15`. -/
def greatestPositional : Int := 15

/-- A positive decimal as text. -/
def printDecimal (d : Decimal) : List Char :=
  let ds := digitsOf d.digits
  let lead := d.exponent + ds.length - 1
  if leastPositional ≤ lead ∧ lead ≤ greatestPositional then
    if 0 ≤ d.exponent then ds ++ List.replicate d.exponent.toNat '0' ++ ['.', '0']
    else if 0 ≤ lead then ds.take (lead + 1).toNat ++ '.' :: ds.drop (lead + 1).toNat
    else ['0', '.'] ++ List.replicate (-lead - 1).toNat '0' ++ ds
  else
    let mantissa :=
      match ds with
      | [] => []
      | [c] => [c]
      | c :: rest => c :: '.' :: rest
    mantissa ++ ['e', if lead < 0 then '-' else '+'] ++ digitsOf lead.natAbs

/-- A number as text. -/
def Number.print : Number → List Char
  | .integer value _ =>
    if value < 0 then '-' :: digitsOf value.natAbs else digitsOf value.natAbs
  | .double d =>
    let text :=
      match d.magnitude? with
      | none => ['0', '.', '0']
      | some m => printDecimal m
    if d.isNegative then '-' :: text else text

/-- The integer of a natural number below `2 ^ 64`. -/
def Number.ofNat (n : Nat) (h : n < 0x10000000000000000) : Number := .integer n (by omega)

end Statechart.Json
