/-
This file holds the finite numbers of double precision. Rounding is exact integer arithmetic on
ratios of natural numbers, so no step depends on the arithmetic of the machine.
-/

namespace Forms

/-- A double is a finite binary number with 53 significant bits. The rank counts the magnitudes from
zero upwards, so neighbouring ranks are neighbouring magnitudes. Both signs of zero exist. -/
structure Double where
  negative : Bool
  rank : Fin (2047 * Nat.pow 2 52)
deriving DecidableEq, Repr

namespace Double

/-- The significand of the magnitude with a rank. Small magnitudes have fewer significant bits. -/
def significandOf (rank : Nat) : Nat :=
  if rank < Nat.pow 2 52 then rank else Nat.pow 2 52 + rank % Nat.pow 2 52

/-- The magnitude with a rank is its significand times two to this number less 1074. -/
def scaleOf (rank : Nat) : Nat := rank / Nat.pow 2 52 - 1

/-- The magnitude with a rank, in units of two to the power -1075. Midpoints of neighbours are whole
in these units. -/
def unitsOf (rank : Nat) : Nat := significandOf rank * Nat.pow 2 (scaleOf rank + 1)

/-- The position on the number line. Both zeros have position zero. -/
def position (value : Double) : Int :=
  if value.negative then -(value.rank.val : Int) else value.rank.val

/-- The comparison of two doubles is the comparison of their positions. -/
def lt (left right : Double) : Bool := decide (left.position < right.position)

def le (left right : Double) : Bool := decide (left.position ≤ right.position)

/-- Equality on the number line identifies the two zeros. -/
def sameNumber (left right : Double) : Bool := decide (left.position = right.position)

def zero (negative : Bool) : Double := ⟨negative, ⟨0, by decide⟩⟩

def isZero (value : Double) : Bool := value.rank.val == 0

/-- The quotient is rounded to the nearest natural number. A tie goes to the even neighbour. -/
def roundQuotient (numerator denominator : Nat) : Nat :=
  let quotient := numerator / denominator
  let twice := 2 * (numerator % denominator)
  if twice < denominator then quotient
  else if twice = denominator then quotient + quotient % 2
  else quotient + 1

/-- A bound on the power of two below a positive ratio. The ratio is at least two to this power, and
less than two to the next. -/
def binaryExponent (numerator denominator : Nat) : Int :=
  let estimate : Int := (numerator.log2 : Int) - (denominator.log2 : Int)
  let reached : Bool :=
    if 0 ≤ estimate then denominator * Nat.pow 2 estimate.toNat ≤ numerator
    else denominator ≤ numerator * Nat.pow 2 (-estimate).toNat
  if reached then estimate else estimate - 1

/-- The double nearest to a ratio of natural numbers. A ratio beyond the largest double has none. -/
def ofRatio? (negative : Bool) (numerator denominator : Nat) : Option Double :=
  if numerator = 0 then some (zero negative)
  else
    let scale : Int := max (binaryExponent numerator denominator - 52) (-1074)
    let significand :=
      if 0 ≤ scale then roundQuotient numerator (denominator * Nat.pow 2 scale.toNat)
      else roundQuotient (numerator * Nat.pow 2 (-scale).toNat) denominator
    let rank := (scale + 1074).toNat * Nat.pow 2 52 + significand
    if inRange : rank < 2047 * Nat.pow 2 52 then some ⟨negative, ⟨rank, inRange⟩⟩ else none

/-- The double nearest to an integer. -/
def ofInt? (value : Int) : Option Double := ofRatio? (value < 0) value.natAbs 1

/-- The product is rounded once. -/
def mul? (left right : Double) : Option Double :=
  ofRatio? (left.negative != right.negative) (unitsOf left.rank * unitsOf right.rank)
    (Nat.pow 2 2150)

/-- The quotient is rounded once. The divisor is a positive double. -/
def div? (left right : Double) : Option Double :=
  ofRatio? (left.negative != right.negative) (unitsOf left.rank) (unitsOf right.rank)

def negate (value : Double) : Double := { value with negative := !value.negative }

example : ofRatio? false 1 1 = some ⟨false, ⟨1023 * Nat.pow 2 52, by decide⟩⟩ := by
  decide +kernel
example : ofRatio? false (Nat.pow 2 53 + 1) 1 = ofRatio? false (Nat.pow 2 53) 1 := by
  decide +kernel
example : ofRatio? false 1 (Nat.pow 2 1074) = some ⟨false, ⟨1, by decide⟩⟩ := by decide +kernel
example : ofRatio? true 1 (Nat.pow 2 1075) = some (zero true) := by decide +kernel
example : ofRatio? false (Nat.pow 2 1024) 1 = none := by decide +kernel

end Double

end Forms
