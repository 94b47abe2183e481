/-
This file finds the shortest decimal numeral that reads back as a given double. Of several numerals
of that length, the one nearest to the double is chosen, and a tie goes to the even numeral.
-/

import Forms.Double

namespace Forms.Decimal

/-- A decimal numeral stands for its digits, read as a fraction with one digit before the point,
times ten to the exponent. -/
structure Numeral where
  digits : Nat
  exponent : Int
deriving DecidableEq, Repr

/-- The number of decimal digits of a natural number. Zero has one digit. -/
def digitCount (value : Nat) : Nat := (Nat.toDigits 10 value).length

/-- The power of ten at or below a positive ratio. -/
def decimalExponent (numerator denominator : Nat) : Int :=
  if denominator ≤ numerator then (digitCount (numerator / denominator) : Int) - 1
  else
    let count := digitCount (denominator / numerator)
    if denominator ≤ numerator * Nat.pow 10 (count - 1) then -((count : Int) - 1)
    else -(count : Int)

/-- The doubled ends of the interval of numbers that round to the magnitude with a rank, and whether
the ends belong to it. -/
structure Interval where
  lower : Nat
  upper : Nat
  closed : Bool

def Interval.ofRank (rank : Nat) : Interval where
  lower := Double.unitsOf (rank - 1) + Double.unitsOf rank
  upper := Double.unitsOf rank + Double.unitsOf (rank + 1)
  closed := rank % 2 = 0

/-- The numeral is tested on the grid of multiples of ten to the power of the grid exponent. The
interval and the numeral are compared over a common denominator. -/
def Interval.holds (interval : Interval) (multiple : Nat) (grid : Int) : Bool :=
  let doubled := 2 * multiple * Nat.pow 10 grid.toNat * Nat.pow 2 1075
  let factor := Nat.pow 10 (-grid).toNat
  if interval.closed then
    interval.lower * factor ≤ doubled && doubled ≤ interval.upper * factor
  else
    interval.lower * factor < doubled && doubled < interval.upper * factor

/-- On one grid only the two multiples around the magnitude can be nearest to it. The nearer of
those inside the interval is chosen. -/
def onGrid (rank : Nat) (grid : Int) : Option Nat :=
  let interval := Interval.ofRank rank
  let numerator := Double.unitsOf rank * Nat.pow 10 (-grid).toNat
  let denominator := Nat.pow 2 1075 * Nat.pow 10 grid.toNat
  let below := numerator / denominator
  let nearest := Double.roundQuotient numerator denominator
  let other := if nearest = below then below + 1 else below
  if interval.holds nearest grid then some nearest
  else if interval.holds other grid then some other
  else none

/-- Trailing zeros of a numeral are dropped. The fuel bounds the number of zeros. -/
def stripZeros : (fuel : Nat) → Nat → Nat
  | 0, digits => digits
  | fuel + 1, digits =>
      if digits ≠ 0 ∧ digits % 10 = 0 then stripZeros fuel (digits / 10) else digits

/-- Seventeen digits always suffice, so the last case is not reached. -/
def shortest (rank : Nat) : Numeral :=
  let leading := decimalExponent (Double.unitsOf rank) (Nat.pow 2 1075)
  let hit := (List.range 17).findSome? fun (count : Nat) =>
    let grid := leading - (count : Int)
    (onGrid rank grid).map fun multiple => (multiple, grid)
  let (multiple, grid) := hit.getD (0, 0)
  { digits := stripZeros 20 multiple, exponent := grid + (digitCount multiple : Int) - 1 }

example : shortest (1023 * Nat.pow 2 52) = ⟨1, 0⟩ := by decide +kernel
example : shortest 1 = ⟨5, -324⟩ := by decide +kernel
example : shortest (2047 * Nat.pow 2 52 - 1) = ⟨17976931348623157, 308⟩ := by
  decide +kernel

end Forms.Decimal
