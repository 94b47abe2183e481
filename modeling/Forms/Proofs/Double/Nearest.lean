/-
This file proves that an integer is rounded to the nearest double. No double is closer, the order of two
integers is kept, and an integer that a double can hold is not changed.
-/

import Forms.Proofs.Decimal.Shortest

namespace Forms

namespace Double

/-- The units of magnitudes are two to the power of this number below one. -/
@[irreducible]
def unitBits : Nat := 1075

/-- The number one, in the units of magnitudes. -/
def unitsOfOne : Nat := 2 ^ unitBits

/-- The number that a double stands for, in the units of magnitudes. -/
def units (value : Double) : Int :=
  if value.negative then -(unitsOf value.rank : Int) else unitsOf value.rank

/-- How far a double is from an integer, in the units of magnitudes. -/
def distance (value : Double) (number : Int) : Nat := (value.units - number * unitsOfOne).natAbs

/-- No double is closer to the number. Of two that are equally close it is the even one. -/
structure IsNearest (value : Double) (number : Int) : Prop where
  closest : ∀ other : Double, value.distance number ≤ other.distance number
  even : ∀ other : Double, other.distance number = value.distance number →
    other.units = value.units ∨ value.rank.val % 2 = 0

theorem unitsOf_zero : unitsOf 0 = 0 := unitsOf_small (by decide)

/-- Significands from the first one with all its bits up to twice that one measure the magnitude
evenly. -/
theorem unitsOf_significand (scale : Nat) {significand : Nat} (full : Nat.pow 2 52 ≤ significand)
    (short : significand ≤ 2 * Nat.pow 2 52) :
    unitsOf (scale * Nat.pow 2 52 + significand) = significand * 2 ^ (scale + 1) := by
  obtain ⟨rest, rfl⟩ := Nat.exists_eq_add_of_le full
  rcases Nat.lt_or_ge rest (Nat.pow 2 52) with inside | carried
  · rw [← unitsOf_large scale inside, Nat.succ_mul, Nat.add_assoc]
  · -- The significand has grown to the first one of the next scale.
    obtain rfl : rest = Nat.pow 2 52 := by omega
    have next := unitsOf_large (scale + 1) (show 0 < Nat.pow 2 52 by decide)
    rw [Nat.add_zero, Nat.add_zero, Nat.succ_mul, Nat.succ_mul, Nat.pow_succ] at next
    rw [← Nat.add_assoc, next]
    ring

section Magnitude

variable {scale significand rank : Nat}

theorem unitsOf_above (full : Nat.pow 2 52 ≤ significand) (short : significand ≤ 2 * Nat.pow 2 52)
    (above : scale * Nat.pow 2 52 + significand < rank) :
    significand * 2 ^ (scale + 1) + 2 ^ (scale + 1) ≤ unitsOf rank := by
  have reached : unitsOf (scale * Nat.pow 2 52 + significand + 1) ≤ unitsOf rank :=
    unitsOf_strictMono.monotone above
  apply Nat.le_trans _ reached
  rcases Nat.lt_or_ge significand (2 * Nat.pow 2 52) with inside | carried
  · rw [Nat.add_assoc, unitsOf_significand scale (by omega) (by omega), Nat.succ_mul]
  · obtain rfl : significand = 2 * Nat.pow 2 52 := by omega
    have same : scale * Nat.pow 2 52 + 2 * Nat.pow 2 52 + 1 =
        (scale + 1) * Nat.pow 2 52 + (Nat.pow 2 52 + 1) := by ring
    have next := unitsOf_significand (scale + 1) (show Nat.pow 2 52 ≤ Nat.pow 2 52 + 1 by omega)
      (by rw [significands]; omega)
    rw [same, next, Nat.pow_succ 2 (scale + 1)]
    have power : 0 < 2 ^ (scale + 1) := Nat.two_pow_pos _
    rw [significands]
    omega

theorem unitsOf_below (full : Nat.pow 2 52 < significand) (short : significand ≤ 2 * Nat.pow 2 52)
    (below : rank < scale * Nat.pow 2 52 + significand) :
    unitsOf rank + 2 ^ (scale + 1) ≤ significand * 2 ^ (scale + 1) := by
  obtain ⟨before, rfl⟩ : ∃ before, significand = before + 1 := Nat.exists_eq_succ_of_ne_zero (by omega)
  have reached : unitsOf rank ≤ unitsOf (scale * Nat.pow 2 52 + before) :=
    unitsOf_strictMono.monotone (by omega)
  rw [unitsOf_significand scale (by omega) (by omega)] at reached
  rw [Nat.succ_mul]
  omega

end Magnitude

/-- A quotient half way between two natural numbers goes to the even one. -/
theorem roundQuotient_even {numerator denominator : Nat} (positive : 0 < denominator)
    (tie : 2 * numerator = 2 * (roundQuotient numerator denominator * denominator) + denominator ∨
      2 * (roundQuotient numerator denominator * denominator) = 2 * numerator + denominator) :
    roundQuotient numerator denominator % 2 = 0 := by
  have parts : numerator / denominator * denominator + numerator % denominator = numerator := by
    rw [Nat.mul_comm]
    exact Nat.div_add_mod numerator denominator
  have short : numerator % denominator < denominator := Nat.mod_lt _ positive
  have next : (numerator / denominator + 1) * denominator =
      numerator / denominator * denominator + denominator := Nat.succ_mul _ _
  simp only [roundQuotient] at tie ⊢
  split
  · next below =>
      rw [if_pos below] at tie
      omega
  · next reached =>
      rw [if_neg reached] at tie
      split
      · omega
      · next beyond =>
          rw [if_neg beyond] at tie
          omega

/-- A significand at a scale that measures a number of units best. -/
structure Measures (scale significand target : Nat) : Prop where
  full : Nat.pow 2 52 ≤ significand
  short : significand ≤ 2 * Nat.pow 2 52
  notAbove : 2 * target ≤ 2 * (significand * 2 ^ (scale + 1)) + 2 ^ (scale + 1)
  notBelow : 2 * (significand * 2 ^ (scale + 1)) ≤ 2 * target + 2 ^ (scale + 1)
  /-- The distances below the first significand are shorter. -/
  first : significand = Nat.pow 2 52 → significand * 2 ^ (scale + 1) ≤ target
  tie : 2 * target = 2 * (significand * 2 ^ (scale + 1)) + 2 ^ (scale + 1) ∨
    2 * (significand * 2 ^ (scale + 1)) = 2 * target + 2 ^ (scale + 1) → significand % 2 = 0

namespace Measures

variable {scale significand target : Nat}

/-- No magnitude is closer to the target, and an equally close one leaves the significand even. -/
theorem closest (measures : Measures scale significand target) (rank : Nat) :
    ((significand * 2 ^ (scale + 1) : Nat) - target : Int).natAbs ≤
        (unitsOf rank - target : Int).natAbs ∧
      ((unitsOf rank - target : Int).natAbs =
          ((significand * 2 ^ (scale + 1) : Nat) - target : Int).natAbs →
        unitsOf rank = significand * 2 ^ (scale + 1) ∨ significand % 2 = 0) := by
  obtain ⟨full, short, notAbove, notBelow, first, tie⟩ := measures
  have power : 0 < 2 ^ (scale + 1) := Nat.two_pow_pos _
  rcases Nat.lt_trichotomy rank (scale * Nat.pow 2 52 + significand) with below | rfl | above
  · rcases Nat.lt_or_eq_of_le full with inside | start
    · have apart := unitsOf_below inside short below
      generalize significand * 2 ^ (scale + 1) = units at *
      generalize 2 ^ (scale + 1) = gap at *
      omega
    · have lower : unitsOf rank < unitsOf (scale * Nat.pow 2 52 + significand) :=
        unitsOf_strictMono below
      rw [unitsOf_significand scale full short] at lower
      have notBeyond := first start.symm
      omega
  · rw [unitsOf_significand scale full short]
    omega
  · have apart := unitsOf_above full short above
    generalize significand * 2 ^ (scale + 1) = units at *
    generalize 2 ^ (scale + 1) = gap at *
    omega

end Measures

theorem two_pow_add_units (scale : Nat) : 2 ^ (scale + 1074 + 1) = 2 ^ scale * unitsOfOne := by
  have bits : scale + 1074 + 1 = scale + unitBits := by unfold unitBits; rfl
  rw [bits, Nat.pow_add, unitsOfOne]

theorem unitsOfOne_pos : 0 < unitsOfOne := Nat.two_pow_pos unitBits

theorem binaryExponent_one {number : Nat} (positive : 0 < number) :
    binaryExponent number 1 = number.log2 := by
  have log : Nat.log2 1 = 0 := by decide
  have reached : 2 ^ number.log2 ≤ number := Nat.log2_self_le (Nat.ne_of_gt positive)
  simp [binaryExponent, log, reached]

theorem roundQuotient_one (number : Nat) : roundQuotient number 1 = number := by
  simp [roundQuotient, Nat.mod_one]

/-- A number with more bits than a significand is rounded to a multiple of a power of two. -/
theorem measures_long {number scale : Nat} (above : 2 ^ scale * Nat.pow 2 52 ≤ number)
    (below : number < 2 ^ scale * (2 * Nat.pow 2 52)) :
    Measures (scale + 1074) (roundQuotient number (2 ^ scale)) (number * unitsOfOne) := by
  have power : 0 < 2 ^ scale := Nat.two_pow_pos _
  obtain ⟨notAbove, notBelow⟩ := Decimal.roundQuotient_near number power
  have even := @roundQuotient_even number (2 ^ scale) power
  generalize roundQuotient number (2 ^ scale) = significand at *
  have full : Nat.pow 2 52 ≤ significand := by
    by_contra small
    have most : (significand + 1) * 2 ^ scale ≤ Nat.pow 2 52 * 2 ^ scale :=
      Nat.mul_le_mul_right _ (Nat.lt_of_not_le small)
    rw [Nat.succ_mul, Nat.mul_comm (Nat.pow 2 52)] at most
    omega
  have short : significand ≤ 2 * Nat.pow 2 52 := by
    by_contra large
    have least : (2 * Nat.pow 2 52 + 1) * 2 ^ scale ≤ significand * 2 ^ scale :=
      Nat.mul_le_mul_right _ (Nat.lt_of_not_le large)
    rw [Nat.succ_mul, Nat.mul_comm (2 * Nat.pow 2 52)] at least
    omega
  -- All bounds are multiplied by the units of one.
  have positive := unitsOfOne_pos
  have units : significand * 2 ^ (scale + 1074 + 1) = significand * 2 ^ scale * unitsOfOne := by
    rw [two_pow_add_units, Nat.mul_assoc]
  have scaled {left right : Nat} (bounded : left ≤ right) :
      left * unitsOfOne ≤ right * unitsOfOne := Nat.mul_le_mul_right _ bounded
  have cancelled {left right : Nat} (same : left * unitsOfOne = right * unitsOfOne) : left = right :=
    Nat.eq_of_mul_eq_mul_right positive same
  refine ⟨full, short, ?_, ?_, ?_, ?_⟩
  · rw [units, two_pow_add_units]
    simpa only [Nat.add_mul, Nat.mul_assoc] using scaled notAbove
  · rw [units, two_pow_add_units]
    simpa only [Nat.add_mul, Nat.mul_assoc] using scaled notBelow
  · intro first
    rw [units, first, Nat.mul_comm (Nat.pow 2 52)]
    exact scaled above
  · rw [units, two_pow_add_units]
    intro tie
    apply even
    refine tie.imp (fun same => cancelled ?_) fun same => cancelled ?_
    · simpa only [Nat.add_mul, Nat.mul_assoc] using same
    · simpa only [Nat.add_mul, Nat.mul_assoc] using same

/-- The missing bits of a short number take it to the first significands. -/
theorem mul_two_pow_missing (number : Nat) {missing : Nat} (few : missing ≤ 52) :
    number * 2 ^ missing * 2 ^ (1074 - missing + 1) = number * unitsOfOne := by
  have bits : missing + (1074 - missing + 1) = unitBits := by
    unfold unitBits
    omega
  rw [Nat.mul_assoc, ← Nat.pow_add, bits, unitsOfOne]

/-- A number with fewer bits than a significand is measured exactly. -/
theorem measures_short {number missing : Nat} (few : missing ≤ 52)
    (above : Nat.pow 2 52 ≤ number * 2 ^ missing) (below : number * 2 ^ missing ≤ 2 * Nat.pow 2 52) :
    Measures (1074 - missing) (number * 2 ^ missing) (number * unitsOfOne) := by
  have exact := mul_two_pow_missing number few
  have power : 0 < 2 ^ (1074 - missing + 1) := Nat.two_pow_pos _
  refine ⟨above, below, ?_, ?_, ?_, ?_⟩ <;> rw [exact] <;>
    generalize 2 ^ (1074 - missing + 1) = gap at * <;> omega

/-- The rounding of a positive number is assembled from its scale and its significand. -/
theorem ofRatio?_one (negative : Bool) {number significand : Nat} {scale : Int} (positive : 0 < number)
    (grid : max (binaryExponent number 1 - 52) (-1074) = scale)
    (rounded : (if 0 ≤ scale then roundQuotient number (1 * Nat.pow 2 scale.toNat)
      else roundQuotient (number * Nat.pow 2 (-scale).toNat) 1) = significand)
    (inside : (scale + 1074).toNat * Nat.pow 2 52 + significand < 2047 * Nat.pow 2 52) :
    ofRatio? negative number 1 = some ⟨negative, ⟨_, inside⟩⟩ := by
  subst grid rounded
  simp only [ofRatio?, if_neg (Nat.ne_of_gt positive), dif_pos inside]

/-- With its missing bits a number reaches the significands. -/
theorem significand_bounds {number log missing : Nat} (whole : 52 = log + missing)
    (least : 2 ^ log ≤ number) (most : number < 2 ^ (log + 1)) :
    Nat.pow 2 52 ≤ number * 2 ^ missing ∧ number * 2 ^ missing ≤ 2 * Nat.pow 2 52 := by
  have full : 2 ^ log * 2 ^ missing = Nat.pow 2 52 := by
    rw [← Nat.pow_add, ← whole, Nat.pow_eq]
  have lower := Nat.mul_le_mul_right (2 ^ missing) least
  have upper := Nat.mul_le_mul_right (2 ^ missing) (Nat.le_of_lt most)
  rw [Nat.pow_succ, Nat.mul_comm (2 ^ log), Nat.mul_assoc] at upper
  rw [full] at lower upper
  exact ⟨lower, upper⟩

/-- The rounding of a positive number of at most 64 bits measures it. -/
theorem exists_measures {number : Nat} (positive : 0 < number) (inRange : number < Nat.pow 2 64)
    (negative : Bool) :
    ∃ value scale significand, ofRatio? negative number 1 = some value ∧ value.negative = negative ∧
      value.rank.val = scale * Nat.pow 2 52 + significand ∧
      Measures scale significand (number * unitsOfOne) := by
  have least : 2 ^ number.log2 ≤ number := Nat.log2_self_le (Nat.ne_of_gt positive)
  have most : number < 2 ^ (number.log2 + 1) := Nat.lt_log2_self
  have bits : number.log2 < 64 := (Nat.log2_lt (Nat.ne_of_gt positive)).mpr inRange
  have exponent := binaryExponent_one positive
  generalize number.log2 = log at *
  rcases Nat.lt_or_ge log 52 with few | many
  · obtain ⟨missing, whole⟩ := Nat.exists_eq_add_of_le (Nat.le_of_lt few)
    obtain ⟨above, below⟩ := significand_bounds whole least most
    have lower : (-(missing : Int) + 1074).toNat = 1074 - missing := by omega
    have inside : (-(missing : Int) + 1074).toNat * Nat.pow 2 52 + number * 2 ^ missing <
        2047 * Nat.pow 2 52 := by
      rw [lower, significands] at *
      omega
    refine ⟨_, 1074 - missing, number * 2 ^ missing,
      ofRatio?_one negative positive (by rw [exponent]; omega) ?_ inside, rfl,
      congrArg (· * Nat.pow 2 52 + number * 2 ^ missing) lower, measures_short (by omega) above below⟩
    rw [if_neg (by omega), roundQuotient_one, Int.neg_neg, Int.toNat_natCast, Nat.pow_eq]
  · obtain ⟨scale, rfl⟩ := Nat.exists_eq_add_of_le many
    have above : 2 ^ scale * Nat.pow 2 52 ≤ number := by
      rw [Nat.mul_comm, Nat.pow_eq, ← Nat.pow_add]
      exact least
    have below : number < 2 ^ scale * (2 * Nat.pow 2 52) := by
      rw [Nat.pow_succ, Nat.pow_add] at most
      rw [Nat.pow_eq]
      linarith
    have measures := measures_long above below
    have short := measures.short
    have lower : ((scale : Int) + 1074).toNat = scale + 1074 := by omega
    have inside : ((scale : Int) + 1074).toNat * Nat.pow 2 52 + roundQuotient number (2 ^ scale) <
        2047 * Nat.pow 2 52 := by
      rw [lower, significands] at *
      omega
    refine ⟨_, scale + 1074, _, ofRatio?_one negative positive (by rw [exponent]; omega) ?_ inside,
      rfl, congrArg (· * Nat.pow 2 52 + roundQuotient number (2 ^ scale)) lower, measures⟩
    rw [if_pos (by omega), Int.toNat_natCast, Nat.one_mul, Nat.pow_eq]

theorem distance_zero (value : Double) : value.distance 0 = unitsOf value.rank := by
  rw [distance, units]
  split <;> omega

/-- The distance from a number of the other sign leads through zero. -/
theorem distance_eq (value : Double) (number : Int) :
    value.distance number =
      if value.negative = decide (number < 0) then
        (unitsOf value.rank - (number.natAbs * unitsOfOne : Nat) : Int).natAbs
      else unitsOf value.rank + number.natAbs * unitsOfOne := by
  have magnitude : number * unitsOfOne =
      if number < 0 then -((number.natAbs * unitsOfOne : Nat) : Int)
      else (number.natAbs * unitsOfOne : Nat) := by
    split
    · next negative =>
        rw [← Int.neg_neg number, Int.neg_mul, Int.neg_neg, Nat.cast_mul,
          Int.ofNat_natAbs_of_nonpos (by omega)]
    · next natural =>
        rw [Nat.cast_mul, Int.natAbs_of_nonneg (by omega)]
  rw [distance, units, magnitude]
  generalize number.natAbs * unitsOfOne = target
  cases value.negative <;> by_cases negative : number < 0 <;> simp [negative] <;> omega

/-- An integer of at most 64 bits has a nearest double. -/
theorem exists_isNearest {number : Int} (inRange : number.natAbs < Nat.pow 2 64) :
    ∃ value, ofInt? number = some value ∧ value.IsNearest number := by
  rcases eq_or_ne number 0 with rfl | nonzero
  · have none : (zero false).distance 0 = 0 := by rw [distance_zero]; exact unitsOf_zero
    refine ⟨zero false, rfl, fun other => ?_, fun other equal => ?_⟩
    · rw [none]
      exact Nat.zero_le _
    · exact .inr rfl
  · obtain ⟨value, scale, significand, rounded, sign, rank, measures⟩ :=
      exists_measures (Int.natAbs_pos.mpr nonzero) inRange (decide (number < 0))
    have short : significand * 2 ^ (scale + 1) = unitsOf value.rank := by
      rw [rank, unitsOf_significand scale measures.full measures.short]
    have own : value.distance number = _ := (distance_eq value number).trans (if_pos sign)
    have parity : value.rank.val % 2 = significand % 2 := by
      rw [rank, significands]
      omega
    have nearZero := measures.closest 0
    have near := measures.closest
    simp only [short, unitsOf_zero, Nat.cast_zero, zero_sub, Int.natAbs_neg, Int.natAbs_natCast]
      at near nearZero
    refine ⟨value, rounded, fun other => ?_, fun other equal => ?_⟩
    · rw [own, distance_eq other]
      split
      · exact (near other.rank).1
      · exact nearZero.1.trans (Nat.le_add_left _ _)
    · rw [own, distance_eq other] at equal
      rw [parity, units, units]
      split at equal
      · next same =>
          rw [same, sign]
          refine ((near other.rank).2 equal).imp_left fun sameUnits => ?_
          rw [sameUnits]
      · -- Both doubles are as far away as zero is.
        have zero : unitsOf other.rank = 0 := by
          have bound := nearZero.1
          omega
        rw [zero, Nat.zero_add] at equal
        refine (nearZero.2 equal).imp_left fun sameUnits => ?_
        rw [zero, ← sameUnits]
        simp

/-- Every integer that a significand has room for is a double. -/
theorem exists_units_eq {number : Int} (few : number.natAbs ≤ 2 * Nat.pow 2 52) :
    ∃ value : Double, value.units = number * unitsOfOne := by
  have magnitude : ∃ rank < 2047 * Nat.pow 2 52, unitsOf rank = number.natAbs * unitsOfOne := by
    generalize number.natAbs = size at few
    rcases Nat.eq_zero_or_pos size with rfl | positive
    · exact ⟨0, by decide, by rw [unitsOf_zero, Nat.zero_mul]⟩
    obtain ⟨missing, short, above, below⟩ : ∃ missing ≤ 52,
        Nat.pow 2 52 ≤ size * 2 ^ missing ∧ size * 2 ^ missing ≤ 2 * Nat.pow 2 52 := by
      rcases Nat.lt_or_ge size (2 * Nat.pow 2 52) with inside | last
      · have log : size.log2 < 53 := (Nat.log2_lt (Nat.ne_of_gt positive)).mpr inside
        exact ⟨52 - size.log2, by omega, significand_bounds (by omega)
          (Nat.log2_self_le (Nat.ne_of_gt positive)) Nat.lt_log2_self⟩
      · exact ⟨0, by omega, by omega, by omega⟩
    refine ⟨(1074 - missing) * Nat.pow 2 52 + size * 2 ^ missing, ?_, ?_⟩
    · rw [significands] at *
      omega
    · rw [unitsOf_significand _ above below, mul_two_pow_missing size short]
  obtain ⟨rank, inside, exact⟩ := magnitude
  refine ⟨⟨decide (number < 0), ⟨rank, inside⟩⟩, ?_⟩
  simp only [units, exact, decide_eq_true_eq, Nat.cast_mul]
  split
  · rw [Int.ofNat_natAbs_of_nonpos (by omega), Int.neg_mul, Int.neg_neg]
  · rw [Int.natAbs_of_nonneg (by omega)]

namespace IsNearest

variable {left right value : Double} {first second number : Int}

/-- Rounding keeps the order of two integers, but it can make them equal. -/
theorem units_le (leftNearest : left.IsNearest first) (rightNearest : right.IsNearest second)
    (below : first < second) : left.units ≤ right.units := by
  have leftClosest := leftNearest.closest right
  have rightClosest := rightNearest.closest left
  have scaled : first * unitsOfOne < second * unitsOfOne :=
    mul_lt_mul_of_pos_right below (Nat.cast_pos.mpr unitsOfOne_pos)
  rw [distance, distance] at leftClosest rightClosest
  omega

/-- Rounding does not lead past an integer that is a double. -/
theorem le_units (nearest : value.IsNearest number) (few : first.natAbs ≤ 2 * Nat.pow 2 52)
    (below : first ≤ number) : first * unitsOfOne ≤ value.units := by
  obtain ⟨exact, same⟩ := exists_units_eq few
  have closest := nearest.closest exact
  have scaled : first * unitsOfOne ≤ number * unitsOfOne :=
    Int.mul_le_mul_of_nonneg_right below (Int.natCast_nonneg _)
  rw [distance, distance, same] at closest
  omega

theorem units_le_of_le (nearest : value.IsNearest number) (few : first.natAbs ≤ 2 * Nat.pow 2 52)
    (above : number ≤ first) : value.units ≤ first * unitsOfOne := by
  obtain ⟨exact, same⟩ := exists_units_eq few
  have closest := nearest.closest exact
  have scaled : number * unitsOfOne ≤ first * unitsOfOne :=
    Int.mul_le_mul_of_nonneg_right above (Int.natCast_nonneg _)
  rw [distance, distance, same] at closest
  omega

/-- An integer with fewer bits than a significand is never made equal to another integer. -/
theorem units_lt (leftNearest : left.IsNearest first) (rightNearest : right.IsNearest second)
    (below : first < second)
    (few : first.natAbs < 2 * Nat.pow 2 52 ∨ second.natAbs < 2 * Nat.pow 2 52) :
    left.units < right.units := by
  have positive : (0 : Int) < unitsOfOne := Nat.cast_pos.mpr unitsOfOne_pos
  rcases few with few | few
  · have lower := leftNearest.units_le_of_le (Nat.le_of_lt few) (Int.le_refl _)
    have upper : (first + 1) * unitsOfOne ≤ right.units :=
      rightNearest.le_units (by omega) (by omega)
    rw [Int.add_mul, Int.one_mul] at upper
    omega
  · have lower : left.units ≤ (second - 1) * unitsOfOne :=
      leftNearest.units_le_of_le (by omega) (by omega)
    have upper := rightNearest.le_units (Nat.le_of_lt few) (Int.le_refl _)
    rw [Int.sub_mul, Int.one_mul] at lower
    omega

end IsNearest

/-- The order of positions is the order of the numbers. -/
theorem position_lt_iff (left right : Double) :
    left.position < right.position ↔ left.units < right.units := by
  have ranks := unitsOf_strictMono.lt_iff_lt (a := left.rank.val) (b := right.rank.val)
  have turned := unitsOf_strictMono.lt_iff_lt (a := right.rank.val) (b := left.rank.val)
  have leftZero := unitsOf_strictMono.lt_iff_lt (a := 0) (b := left.rank.val)
  have rightZero := unitsOf_strictMono.lt_iff_lt (a := 0) (b := right.rank.val)
  rw [unitsOf_zero] at leftZero rightZero
  simp only [position, units]
  generalize unitsOf left.rank.val = leftUnits at *
  generalize unitsOf right.rank.val = rightUnits at *
  cases left.negative <;> cases right.negative <;> simp <;> omega

end Double

end Forms
