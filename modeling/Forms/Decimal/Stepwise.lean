/-
This file reads decimal numerals in two roundings: the digits become a double first, and the power of
ten is applied to that double. The result can differ from the nearest double in the last place, and
it is a rule of the text format that it does.
-/

import Forms.Double

namespace Forms.Decimal

/-- The greatest significand that is kept exactly. -/
def significandLimit : Nat := Nat.pow 2 64 - 1

/-- The double nearest to a power of ten up to the exponent 308. -/
def powerOfTen? (exponent : Nat) : Option Double := Double.ofRatio? false (Nat.pow 10 exponent) 1

/-- One step multiplies or divides by the rounded power of ten. -/
def scaleOnce? (value : Double) (exponent : Int) : Option Double :=
  if 0 ≤ exponent then (powerOfTen? exponent.toNat).bind value.mul?
  else (powerOfTen? (-exponent).toNat).bind value.div?

/-- The exponent is applied in steps of at most 308. Two full steps downwards leave nothing of a
significand, and one full step upwards leaves the range. -/
def scale? (significand : Nat) (exponent : Int) : Option Double := do
  let value ← Double.ofRatio? false significand 1
  if significand = 0 then some value
  else if 308 < exponent then none
  else if -308 ≤ exponent then scaleOnce? value exponent
  else if -616 ≤ exponent then do
    let lowered ← scaleOnce? value (-308)
    scaleOnce? lowered (exponent + 308)
  else some (Double.zero false)

/-- The digits read so far. A full significand takes no more digits. -/
structure Accumulator where
  significand : Nat
  exponent : Int
  full : Bool

def Accumulator.fits (accumulator : Accumulator) (digit : Nat) : Bool :=
  !accumulator.full && accumulator.significand * 10 + digit ≤ significandLimit

/-- A digit before the point that no longer fits still raises the exponent. -/
def Accumulator.whole (accumulator : Accumulator) (digit : Nat) : Accumulator :=
  if accumulator.fits digit then
    { accumulator with significand := accumulator.significand * 10 + digit }
  else { accumulator with exponent := accumulator.exponent + 1, full := true }

/-- A digit after the point that no longer fits is dropped. -/
def Accumulator.fraction (accumulator : Accumulator) (digit : Nat) : Accumulator :=
  if accumulator.fits digit then
    { accumulator with
      significand := accumulator.significand * 10 + digit
      exponent := accumulator.exponent - 1 }
  else { accumulator with full := true }

/-- The digits before the point. -/
def Accumulator.ofWhole (digits : List Nat) : Accumulator :=
  digits.foldl Accumulator.whole ⟨0, 0, false⟩

/-- The point gives the digits after it one more chance to fit. -/
def Accumulator.addFraction (accumulator : Accumulator) (digits : List Nat) : Accumulator :=
  digits.foldl Accumulator.fraction { accumulator with full := false }

/-- The double that the accumulated digits stand for. -/
def Accumulator.toDouble? (accumulator : Accumulator) (negative : Bool) (exponent : Int) :
    Option Double :=
  (scale? accumulator.significand (accumulator.exponent + exponent)).map fun value =>
    { value with negative := negative }

end Forms.Decimal
