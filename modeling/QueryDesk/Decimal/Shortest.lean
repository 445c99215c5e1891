import QueryDesk.Decimal.Double

/-!
# The shortest decimal that reads back

The reals that round to a double form an interval around it. The decimal grids `d · 10^k` are nested,
so the coarsest grid with a point in that interval gives the fewest digits. On that grid one of the two
neighbours of the value lies in the interval; of two such neighbours the nearer is taken.
-/

namespace QueryDesk.Decimal

/-- Which of two equally near decimals is taken. -/
inductive Tie
  /-- the one with an even last digit -/
  | toEven
  /-- the larger one -/
  | up
  deriving DecidableEq, Repr

/-- The reals that round to a value, in fractions of one denominator: the value itself, the two ends,
and whether the ends belong to it. -/
structure Interval where
  value : Nat
  low : Nat
  high : Nat
  den : Nat
  closed : Bool

/-- The interval of a value other than zero, in quarters of its last place. The lower half is shorter
where the spacing of doubles doubles. -/
def Interval.ofDouble (x : Double) : Interval :=
  let up := Nat.pow 2 (x.exponent - 2).toNat
  let low := if x.mantissa = Nat.pow 2 52 ∧ Double.minExponent < x.exponent then 4 * x.mantissa - 1
    else 4 * x.mantissa - 2
  { value := 4 * x.mantissa * up
    low := low * up
    high := (4 * x.mantissa + 2) * up
    den := Nat.pow 2 (2 - x.exponent).toNat
    closed := x.mantissa % 2 == 0 }

/-- The same interval in units of `10^k`. -/
def Interval.atPower (i : Interval) (k : Int) : Interval :=
  let up := Nat.pow 10 (-k).toNat
  { i with value := i.value * up, low := i.low * up, high := i.high * up, den := i.den * Nat.pow 10 k.toNat }

/-- Whether the integer `d` lies in the interval. -/
def Interval.contains (i : Interval) (d : Nat) : Bool :=
  let x := d * i.den
  if i.closed then i.low ≤ x && x ≤ i.high else i.low < x && x < i.high

/-- The integer of the interval that is nearest to the value, if the value has a neighbour in it. -/
def Interval.nearest? (i : Interval) (tie : Tie) : Option Nat :=
  let d := i.value / i.den
  let below := i.contains d
  let above := i.contains (d + 1)
  if below && above then
    let twice := 2 * (i.value % i.den)
    if twice < i.den then some d
    else if i.den < twice then some (d + 1)
    else match tie with
      | .toEven => some (if d % 2 = 0 then d else d + 1)
      | .up => some (d + 1)
  else if below then some d
  else if above then some (d + 1)
  else none

/-- The first grid with a hit, going down from `10^k`. -/
def search (i : Interval) (tie : Tie) (k : Int) : Nat → Nat × Int
  | 0 => (i.value / i.den, 0)
  | steps + 1 =>
    match (i.atPower k).nearest? tie with
    | some d => (d, k)
    | none => search i tie (k - 1) steps

/-- Digits and power of ten of the shortest decimal that reads back as the magnitude of `x`. The search
starts above the value, whose decimal exponent is within one of the estimate, and 17 digits always
suffice. -/
def shortest (x : Double) (tie : Tie) : Nat × Int :=
  if x.isZero then (0, 0)
  else
    let estimate := ((x.mantissa.log2 : Int) + x.exponent) * 30103 / 100000
    search (Interval.ofDouble x) tie (estimate + 2) 24

end QueryDesk.Decimal
