import SearchGateway.Decimal.Binary64

/-!
# The shortest decimal that reads back

Every double is the rounding of a whole interval of real numbers: the interval ends half
way to its two neighbours, and the ends belong to it exactly when the mantissa is even.
The shortest decimal of a double is the decimal with the fewest digits in that interval
and, of several, the one nearest to the double.  It is found by laying decimal grids over
the interval, the coarsest first: if a grid has a point in the interval, then one of the
two grid points around the double lies in it.

All quantities are natural numbers.  A grid is given by its step, and the double and the
ends of its interval are counted in a common fraction of that step.
-/
namespace SearchGateway.Decimal

/-- A decimal number without sign: `coefficient * 10 ^ exponent`. -/
structure Scaled where
  coefficient : Nat
  exponent : Int
deriving DecidableEq, Repr

/-- Which of two equally near decimals is taken. -/
inductive Tie where
  /-- The one whose last digit is even. -/
  | toEven
  /-- The larger one. -/
  | up
deriving DecidableEq, Repr

/-- The real numbers that round to a magnitude, measured on a decimal grid: `step` is the
distance of two grid points, and all four lengths have one unit. -/
structure Interval where
  low : Nat
  value : Nat
  high : Nat
  step : Nat
  /-- The ends belong to the interval. -/
  closed : Bool
deriving DecidableEq, Repr

namespace Interval

/-- The interval of a magnitude on the grid of the multiples of `10 ^ scale`. -/
def ofMagnitude (m : Magnitude) (scale : Int) : Interval :=
  let quarter := m.exponent - 2
  let up := Nat.pow 2 quarter.toNat * Nat.pow 10 (-scale).toNat
  let step := Nat.pow 2 (-quarter).toNat * Nat.pow 10 scale.toNat
  { low := (4 * m.mantissa - (if m.closeBelow then 1 else 2)) * up
    value := 4 * m.mantissa * up
    high := (4 * m.mantissa + 2) * up
    step
    closed := m.mantissa % 2 == 0 }

/-- Whether the grid point with this number lies in the interval. -/
def contains (i : Interval) (point : Nat) : Bool :=
  if i.closed then i.low ≤ point * i.step && point * i.step ≤ i.high
  else i.low < point * i.step && point * i.step < i.high

/-- The number of the grid point in the interval that is nearest to the value. -/
def nearest? (i : Interval) (tie : Tie) : Option Nat :=
  let below := i.value / i.step
  let above := below + 1
  match i.contains below, i.contains above with
  | false, false => none
  | true, false => some below
  | false, true => some above
  | true, true =>
    if 2 * i.value < (below + above) * i.step then some below
    else if (below + above) * i.step < 2 * i.value then some above
    else match tie with
      | .up => some above
      | .toEven => some (if below % 2 = 0 then below else above)

end Interval

namespace Magnitude

/-- The power of ten of the first digit of a magnitude that is not zero. -/
def firstExponent (m : Magnitude) : Int :=
  let above := m.mantissa * Nat.pow 2 m.exponent.toNat
  let below := Nat.pow 2 (-m.exponent).toNat
  let guess : Int := (Nat.toDigits 10 above).length - (Nat.toDigits 10 below).length
  if below * Nat.pow 10 guess.toNat ≤ above * Nat.pow 10 (-guess).toNat then guess else guess - 1

/-- The shortest decimal of a magnitude: the grids of one digit, of two, and so on up to
seventeen, where every interval has a grid point. -/
def shortest (m : Magnitude) (tie : Tie) : Scaled :=
  if m.mantissa = 0 then ⟨0, 0⟩
  else
    let first := m.firstExponent
    let found := (List.range 17).findSome? fun (below : Nat) =>
      ((Interval.ofMagnitude m (first - below)).nearest? tie).map fun point =>
        Scaled.mk point (first - below)
    found.getD ⟨m.mantissa, m.exponent⟩

end Magnitude
end SearchGateway.Decimal
