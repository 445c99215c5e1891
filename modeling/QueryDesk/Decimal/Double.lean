/-!
# Finite binary64 numbers

A `Double` is held as the dyadic value it stands for, so that rounding is exact arithmetic on `Nat`.
`Double.nearest?` rounds a quotient of naturals to the nearest value, a tie to the even mantissa, and
has no answer above the largest finite value.
-/

namespace QueryDesk

/-- The nearest natural to `num / den`, a tie going to the even neighbour. -/
def roundDiv (num den : Nat) : Nat :=
  let q := num / den
  let r := num % den
  if den < 2 * r || (2 * r == den && q % 2 == 1) then q + 1 else q

/-- The value `± mantissa · 2^exponent`. Values made here have a mantissa below `2^53` and an exponent
from `-1074` to `971`, and the mantissa is at least `2^52` unless the exponent is `-1074`. -/
structure Double where
  negative : Bool
  mantissa : Nat
  exponent : Int
  deriving DecidableEq, Repr, Inhabited

namespace Double

/-- Exponent of the subnormal values, the least there is. -/
def minExponent : Int := -1074

/-- Exponent of the largest finite value. -/
def maxExponent : Int := 971

/-- Zero of the given sign. -/
def zero (negative : Bool) : Double := ⟨negative, 0, minExponent⟩

def isZero (x : Double) : Bool := x.mantissa == 0

/-- The quotient `num / (den · 2^e)`, again as numerator and denominator. -/
def atExponent (num den : Nat) (e : Int) : Nat × Nat :=
  (num * Nat.pow 2 (-e).toNat, den * Nat.pow 2 e.toNat)

/-- The exponent at which `num / den` has a mantissa of 53 bits, or the least exponent. -/
def binade (num den : Nat) : Int :=
  let e := max minExponent ((num.log2 : Int) - den.log2 - 53)
  let (a, b) := atExponent num den e
  if a / b < Nat.pow 2 53 then e else e + 1

/-- The double nearest to `± num / den`, if it is finite. -/
def nearest? (negative : Bool) (num den : Nat) : Option Double :=
  if num = 0 then some (zero negative)
  else
    let e := binade num den
    let (a, b) := atExponent num den e
    let m := roundDiv a b
    let (m, e) := if m = Nat.pow 2 53 then (Nat.pow 2 52, e + 1) else (m, e)
    if maxExponent < e then none else some ⟨negative, m, e⟩

/-- The magnitude as numerator and denominator. -/
def ratio (x : Double) : Nat × Nat :=
  (x.mantissa * Nat.pow 2 x.exponent.toNat, Nat.pow 2 (-x.exponent).toNat)

/-- The product, rounded once. -/
def mul? (x y : Double) : Option Double :=
  nearest? (x.negative != y.negative) (x.ratio.1 * y.ratio.1) (x.ratio.2 * y.ratio.2)

/-- The quotient by a value other than zero, rounded once. -/
def div? (x y : Double) : Option Double :=
  nearest? (x.negative != y.negative) (x.ratio.1 * y.ratio.2) (x.ratio.2 * y.ratio.1)

/-- The double nearest to `10^k`; zero when `10^k` is out of range. -/
def powerOfTen (k : Nat) : Double := (nearest? false (Nat.pow 10 k) 1).getD (zero false)

/-- The largest power of ten below the largest finite value. -/
def maxPower : Nat := 308

/-- `x / 10^k`, dividing by at most `10^308` at a time. A value written with 64 bits of significand is
zero after three such divisions, so three are enough. -/
def scaleDown (x : Double) (k : Nat) : Nat → Double
  | 0 => x
  | steps + 1 =>
    if k ≤ maxPower then (x.div? (powerOfTen k)).getD x
    else scaleDown ((x.div? (powerOfTen maxPower)).getD x) (k - maxPower) steps

/-- `± significand · 10^exponent` by the two-step rule: the significand is rounded to a double, then
scaled by a power of ten with one more rounding. There is no answer when the value is not finite. -/
def scaled? (negative : Bool) (significand : Nat) (exponent : Int) : Option Double := do
  let x ← nearest? negative significand 1
  if x.isZero then return x
  else if exponent < 0 then return x.scaleDown (-exponent).toNat 3
  else if (maxPower : Int) < exponent then none
  else x.mul? (powerOfTen exponent.toNat)

/-- The nearest integer, a half going away from zero. -/
def round (x : Double) : Int :=
  let n := (2 * x.ratio.1 + x.ratio.2) / (2 * x.ratio.2)
  if x.negative then -n else n

end Double

end QueryDesk
