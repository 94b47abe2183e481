/-
This file proves that the shortest numerals tell doubles apart. Seventeen digits reach into the interval
of numbers that round to a double, and the intervals of two doubles have no number in common.
-/

import Forms.Decimal.Shortest
import Mathlib.Algebra.Order.Field.Power
import Mathlib.Algebra.Order.Field.Rat
import Mathlib.Tactic.FieldSimp
import Mathlib.Tactic.Linarith
import Mathlib.Tactic.Positivity
import Mathlib.Tactic.Ring

namespace Forms

namespace Double

/-- The number of significands below the first one with all its bits. -/
theorem significands : Nat.pow 2 52 = 4503599627370496 := rfl

/-- Small magnitudes lie two units apart. -/
theorem unitsOf_small {rank : Nat} (small : rank < Nat.pow 2 52) : unitsOf rank = 2 * rank := by
  have noScale : scaleOf rank = 0 := by rw [scaleOf, Nat.div_eq_of_lt small]
  rw [unitsOf, significandOf, if_pos small, noScale]
  exact Nat.mul_comm rank 2

/-- From there on the significands repeat, and every time the distances double. -/
theorem unitsOf_large (scale : Nat) {rest : Nat} (inside : rest < Nat.pow 2 52) :
    unitsOf ((scale + 1) * Nat.pow 2 52 + rest) = (Nat.pow 2 52 + rest) * 2 ^ (scale + 1) := by
  have positive : 0 < Nat.pow 2 52 := by decide
  have quotient : ((scale + 1) * Nat.pow 2 52 + rest) / Nat.pow 2 52 = scale + 1 := by
    rw [Nat.mul_comm (scale + 1), Nat.mul_add_div positive, Nat.div_eq_of_lt inside, Nat.add_zero]
  have remainder : ((scale + 1) * Nat.pow 2 52 + rest) % Nat.pow 2 52 = rest := by
    rw [Nat.mul_add_mod_self_right, Nat.mod_eq_of_lt inside]
  have large : ¬(scale + 1) * Nat.pow 2 52 + rest < Nat.pow 2 52 := by
    rw [Nat.succ_mul]
    omega
  rw [unitsOf, significandOf, if_neg large, remainder, scaleOf, quotient]
  rfl

/-- The distance from one magnitude to the next is not small against the next one. -/
theorem exists_gap (rank : Nat) :
    ∃ gap, 0 < gap ∧ unitsOf (rank + 1) = unitsOf rank + gap ∧
      unitsOf (rank + 1) ≤ 2 * Nat.pow 2 52 * gap := by
  rcases Nat.lt_or_ge (rank + 1) (Nat.pow 2 52) with small | large
  · refine ⟨2, by decide, ?_, ?_⟩
    · rw [unitsOf_small small, unitsOf_small (by omega)]
      omega
    · rw [unitsOf_small small]
      omega
  · obtain ⟨scale, rest, split, inside⟩ :
        ∃ scale rest, rank + 1 = (scale + 1) * Nat.pow 2 52 + rest ∧ rest < Nat.pow 2 52 := by
      refine ⟨(rank + 1) / Nat.pow 2 52 - 1, (rank + 1) % Nat.pow 2 52, ?_, Nat.mod_lt _ (by decide)⟩
      have positive : 0 < (rank + 1) / Nat.pow 2 52 := Nat.div_pos large (by decide)
      rw [Nat.sub_add_cancel positive, Nat.mul_comm, Nat.div_add_mod]
    have power : 0 < 2 ^ scale := Nat.pow_pos (by decide)
    rw [split, unitsOf_large scale inside]
    cases rest with
    | succ rest =>
        -- The significand grows by one.
        have before : rank = (scale + 1) * Nat.pow 2 52 + rest := by omega
        refine ⟨2 ^ (scale + 1), Nat.pow_pos (by decide), ?_, ?_⟩
        · rw [before, unitsOf_large scale (by omega)]
          ring
        · exact Nat.mul_le_mul_right _ (by omega)
    | zero =>
        cases scale with
        | zero =>
            have before : rank < Nat.pow 2 52 := by omega
            refine ⟨2, by decide, ?_, by decide⟩
            rw [unitsOf_small before]
            omega
        | succ scale =>
            -- The significand starts over, and the distances have doubled here.
            have before : rank = (scale + 1) * Nat.pow 2 52 + (Nat.pow 2 52 - 1) := by
              rw [Nat.succ_mul] at split
              omega
            refine ⟨2 ^ (scale + 1), Nat.pow_pos (by decide), ?_, ?_⟩
            · rw [before, unitsOf_large scale (by decide), significands, Nat.pow_succ 2 (scale + 1)]
              omega
            · rw [significands, Nat.pow_succ 2 (scale + 1)]
              omega

theorem unitsOf_strictMono : StrictMono unitsOf := by
  refine strictMono_nat_of_lt_succ fun rank => ?_
  obtain ⟨gap, positive, next, _⟩ := exists_gap rank
  omega

end Double

namespace Decimal

/-- A power of ten as a quotient of powers with natural exponents. -/
theorem zpow_mul_pow_toNat (grid : Int) :
    (10 : ℚ) ^ grid * 10 ^ (-grid).toNat = 10 ^ grid.toNat := by
  have exponents : grid + ((-grid).toNat : Int) = (grid.toNat : Int) := by omega
  rw [← zpow_natCast, ← zpow_natCast, ← zpow_add₀ (by norm_num), exponents]

/-- The quotient is at most half a unit away from its rounding. -/
theorem roundQuotient_near (numerator : Nat) {denominator : Nat} (positive : 0 < denominator) :
    2 * numerator ≤ 2 * (Double.roundQuotient numerator denominator * denominator) + denominator ∧
      2 * (Double.roundQuotient numerator denominator * denominator) ≤ 2 * numerator + denominator := by
  have parts : denominator * (numerator / denominator) + numerator % denominator = numerator :=
    Nat.div_add_mod numerator denominator
  have short : numerator % denominator < denominator := Nat.mod_lt _ positive
  have next : (numerator / denominator + 1) * denominator =
      denominator * (numerator / denominator) + denominator := by ring
  have same : numerator / denominator * denominator = denominator * (numerator / denominator) :=
    Nat.mul_comm _ _
  simp only [Double.roundQuotient]
  split
  · omega
  · split
    · rcases Nat.mod_two_eq_zero_or_one (numerator / denominator) with even | odd
      · rw [even, Nat.add_zero]
        omega
      · rw [odd]
        omega
    · omega

section DigitCount

variable {value : Nat}

theorem digitCount_pos (value : Nat) : 0 < digitCount value := Nat.length_toDigits_pos

theorem lt_pow_digitCount (value : Nat) : value < 10 ^ digitCount value :=
  (Nat.length_toDigits_le_iff (by decide) (digitCount_pos value)).mp Nat.le.refl

theorem pow_digitCount_le (positive : 0 < value) : 10 ^ (digitCount value - 1) ≤ value := by
  rcases Nat.eq_zero_or_pos (digitCount value - 1) with single | several
  · rw [single]
    exact positive
  · by_contra below
    have fewer := (Nat.length_toDigits_le_iff (by decide) several).mpr (Nat.lt_of_not_le below)
    have count := digitCount_pos value
    rw [digitCount] at fewer count
    omega

theorem digitCount_ten_mul (positive : 0 < value) : digitCount (10 * value) = digitCount value + 1 := by
  have most : digitCount (10 * value) ≤ digitCount value + 1 := by
    refine (Nat.length_toDigits_le_iff (by decide) (Nat.succ_pos _)).mpr ?_
    have above := lt_pow_digitCount value
    rw [Nat.pow_succ]
    omega
  have least : ¬digitCount (10 * value) ≤ digitCount value := by
    intro fewer
    have below := (Nat.length_toDigits_le_iff (by decide) (digitCount_pos value)).mp fewer
    have above := pow_digitCount_le positive
    have power : 10 ^ digitCount value = 10 ^ (digitCount value - 1) * 10 := by
      rw [← Nat.pow_succ, Nat.succ_eq_add_one, Nat.sub_add_cancel (digitCount_pos value)]
    omega
  omega

end DigitCount

/-- The power of ten with the decimal exponent of a ratio is not above the ratio. -/
theorem zpow_decimalExponent_le {numerator denominator : Nat} (positive : 0 < numerator)
    (positiveDenominator : 0 < denominator) :
    (10 : ℚ) ^ decimalExponent numerator denominator * denominator ≤ numerator := by
  simp only [decimalExponent]
  split
  · next above =>
      have whole : 0 < numerator / denominator := Nat.div_pos above positiveDenominator
      have exponent : (digitCount (numerator / denominator) : Int) - 1 =
          ((digitCount (numerator / denominator) - 1 : Nat) : Int) := by
        have count := digitCount_pos (numerator / denominator)
        omega
      have bounded : 10 ^ (digitCount (numerator / denominator) - 1) * denominator ≤ numerator :=
        (Nat.mul_le_mul_right _ (pow_digitCount_le whole)).trans (Nat.div_mul_le_self _ _)
      rw [exponent, zpow_natCast]
      exact_mod_cast bounded
  · have bounded (count : Nat) (reached : denominator ≤ numerator * 10 ^ count) :
        (10 : ℚ) ^ (-(count : Int)) * denominator ≤ numerator := by
      have power : (0 : ℚ) < 10 ^ count := by positivity
      rw [zpow_neg, zpow_natCast, inv_mul_le_iff₀ power, mul_comm]
      exact_mod_cast reached
    have count := digitCount_pos (denominator / numerator)
    split
    · next reached =>
        have exponent : -((digitCount (denominator / numerator) : Int) - 1) =
            -((digitCount (denominator / numerator) - 1 : Nat) : Int) := by omega
        rw [exponent]
        exact bounded _ reached
    · refine bounded _ (le_of_lt ?_)
      rw [Nat.mul_comm]
      exact (Nat.div_lt_iff_lt_mul positive).mp (lt_pow_digitCount _)

/-- A number on a grid in the units of magnitudes. -/
def gridUnits (multiple : Nat) (grid : Int) : ℚ := multiple * 10 ^ grid * (Nat.pow 2 1075 : Nat)

theorem units_pos : 0 < Nat.pow 2 1075 := by decide +kernel

theorem gridUnits_mul_pow (multiple : Nat) (grid : Int) :
    gridUnits multiple grid * 10 ^ (-grid).toNat =
      multiple * (Nat.pow 2 1075 * Nat.pow 10 grid.toNat : Nat) := by
  unfold gridUnits
  generalize Nat.pow 2 1075 = units
  have power : (Nat.pow 10 grid.toNat : Nat) = 10 ^ grid.toNat := rfl
  rw [power]
  push_cast
  rw [← zpow_mul_pow_toNat grid]
  ring

/-- A numeral is tested against the ends of an interval in doubled units. -/
theorem Interval.holds_iff (interval : Interval) (multiple : Nat) (grid : Int) :
    interval.holds multiple grid = true ↔
      if interval.closed then
        interval.lower ≤ 2 * gridUnits multiple grid ∧ 2 * gridUnits multiple grid ≤ interval.upper
      else
        interval.lower < 2 * gridUnits multiple grid ∧ 2 * gridUnits multiple grid < interval.upper := by
  have factor : (0 : ℚ) < 10 ^ (-grid).toNat := by positivity
  have doubled : 2 * gridUnits multiple grid * 10 ^ (-grid).toNat =
      (2 * multiple * Nat.pow 10 grid.toNat * Nat.pow 2 1075 : Nat) := by
    rw [mul_assoc, gridUnits_mul_pow]
    generalize Nat.pow 2 1075 = units
    push_cast
    ring
  have cast (bound : Nat) : ((bound * Nat.pow 10 (-grid).toNat : Nat) : ℚ) =
      bound * 10 ^ (-grid).toNat := by
    rw [Nat.cast_mul]
    exact congrArg _ (Nat.cast_pow 10 _)
  simp only [holds]
  split
  · rw [Bool.and_eq_true, decide_eq_true_eq, decide_eq_true_eq, ← Nat.cast_le (α := ℚ),
      ← Nat.cast_le (α := ℚ), cast, cast, ← doubled, mul_le_mul_iff_left₀ factor,
      mul_le_mul_iff_left₀ factor]
  · rw [Bool.and_eq_true, decide_eq_true_eq, decide_eq_true_eq, ← Nat.cast_lt (α := ℚ),
      ← Nat.cast_lt (α := ℚ), cast, cast, ← doubled, mul_lt_mul_iff_left₀ factor,
      mul_lt_mul_iff_left₀ factor]

/-- The spacing of a grid is positive. -/
theorem gridUnits_one_pos (grid : Int) : 0 < gridUnits 1 grid := by
  have unit : (0 : ℚ) < (Nat.pow 2 1075 : Nat) := Nat.cast_pos.mpr units_pos
  rw [gridUnits, Nat.cast_one, one_mul]
  exact mul_pos (zpow_pos (by norm_num) grid) unit

/-- The nearest number on a grid is at most half the spacing of the grid away. -/
theorem gridUnits_nearest (units : Nat) (grid : Int) :
    let nearest := Double.roundQuotient (units * Nat.pow 10 (-grid).toNat)
      (Nat.pow 2 1075 * Nat.pow 10 grid.toNat)
    2 * (units : ℚ) ≤ 2 * gridUnits nearest grid + gridUnits 1 grid ∧
      2 * gridUnits nearest grid ≤ 2 * (units : ℚ) + gridUnits 1 grid := by
  intro nearest
  set numerator := units * Nat.pow 10 (-grid).toNat with numeratorDef
  set denominator := Nat.pow 2 1075 * Nat.pow 10 grid.toNat with denominatorDef
  have factor : (0 : ℚ) < 10 ^ (-grid).toNat := by positivity
  have numeratorCast : (numerator : ℚ) = units * 10 ^ (-grid).toNat := by
    rw [numeratorDef, Nat.cast_mul]
    exact congrArg _ (Nat.cast_pow 10 _)
  have spacingCast : (denominator : ℚ) = gridUnits 1 grid * 10 ^ (-grid).toNat := by
    rw [gridUnits_mul_pow, Nat.cast_one, one_mul]
  have nearestCast : ((nearest * denominator : Nat) : ℚ) =
      gridUnits nearest grid * 10 ^ (-grid).toNat := by
    rw [gridUnits_mul_pow, Nat.cast_mul]
  have positive : 0 < denominator := by
    rw [← Nat.cast_pos (α := ℚ), spacingCast]
    exact mul_pos (gridUnits_one_pos grid) factor
  obtain ⟨notAbove, notBelow⟩ := roundQuotient_near numerator positive
  constructor
  · have scaled : 2 * (numerator : ℚ) ≤ 2 * ((nearest * denominator : Nat) : ℚ) + denominator := by
      exact_mod_cast notAbove
    rw [numeratorCast, nearestCast, spacingCast] at scaled
    exact le_of_mul_le_mul_right (by linarith) factor
  · have scaled : 2 * ((nearest * denominator : Nat) : ℚ) ≤ 2 * (numerator : ℚ) + denominator := by
      exact_mod_cast notBelow
    rw [numeratorCast, nearestCast, spacingCast] at scaled
    exact le_of_mul_le_mul_right (by linarith) factor

/-- Seventeen digits are finer than the distances between doubles: on a grid that fine the nearest number
on the grid lies inside the interval. -/
theorem holds_nearest {rank : Nat} {grid : Int}
    (fine : 10 ^ 16 * gridUnits 1 grid ≤ Double.unitsOf (rank + 1)) :
    (Interval.ofRank (rank + 1)).holds
      (Double.roundQuotient (Double.unitsOf (rank + 1) * Nat.pow 10 (-grid).toNat)
        (Nat.pow 2 1075 * Nat.pow 10 grid.toNat)) grid = true := by
  obtain ⟨gapBelow, _, below, belowBound⟩ := Double.exists_gap rank
  obtain ⟨gapAbove, _, above, aboveBound⟩ := Double.exists_gap (rank + 1)
  rw [Double.significands] at belowBound aboveBound
  have belowCast : (Double.unitsOf (rank + 1) : ℚ) = Double.unitsOf rank + gapBelow := by
    exact_mod_cast below
  have aboveCast : (Double.unitsOf (rank + 1 + 1) : ℚ) = Double.unitsOf (rank + 1) + gapAbove := by
    exact_mod_cast above
  have spacing := gridUnits_one_pos grid
  have spacingBelow : gridUnits 1 grid < gapBelow := by
    have bound : (Double.unitsOf (rank + 1) : ℚ) ≤ 2 * 4503599627370496 * gapBelow := by
      exact_mod_cast belowBound
    linarith
  have spacingAbove : gridUnits 1 grid < gapAbove := by
    have bound : (Double.unitsOf (rank + 1 + 1) : ℚ) ≤ 2 * 4503599627370496 * gapAbove := by
      exact_mod_cast aboveBound
    linarith
  obtain ⟨notAbove, notBelow⟩ := gridUnits_nearest (Double.unitsOf (rank + 1)) grid
  set nearest := Double.roundQuotient (Double.unitsOf (rank + 1) * Nat.pow 10 (-grid).toNat)
    (Nat.pow 2 1075 * Nat.pow 10 grid.toNat)
  have lower : ((Interval.ofRank (rank + 1)).lower : ℚ) < 2 * gridUnits nearest grid := by
    rw [Interval.ofRank, Nat.add_sub_cancel, Nat.cast_add]
    linarith
  have upper : 2 * gridUnits nearest grid < (Interval.ofRank (rank + 1)).upper := by
    rw [Interval.ofRank, Nat.cast_add]
    linarith
  rw [Interval.holds_iff]
  split
  · exact ⟨le_of_lt lower, le_of_lt upper⟩
  · exact ⟨lower, upper⟩

theorem holds_of_onGrid {rank multiple : Nat} {grid : Int} (found : onGrid rank grid = some multiple) :
    (Interval.ofRank rank).holds multiple grid = true := by
  have either (first second : Nat)
      (found : (if (Interval.ofRank rank).holds first grid then some first
        else if (Interval.ofRank rank).holds second grid then some second else none) =
          some multiple) : (Interval.ofRank rank).holds multiple grid = true := by
    split at found
    · next holds =>
        cases found
        exact holds
    · split at found
      · next holds =>
          cases found
          exact holds
      · cases found
  exact either _ _ found

theorem gridUnits_sub (grid : Int) (finer : Nat) :
    10 ^ finer * gridUnits 1 (grid - finer) = gridUnits 1 grid := by
  have power : (10 : ℚ) ^ grid = 10 ^ finer * 10 ^ (grid - finer) := by
    rw [← zpow_natCast, ← zpow_add₀ (by norm_num), add_sub_cancel]
  unfold gridUnits
  generalize Nat.pow 2 1075 = units
  rw [power]
  ring

/-- One of the grids has a number in the interval of a positive magnitude, and the numeral is that number
without its trailing zeros. -/
theorem exists_shortest_eq (rank : Nat) :
    ∃ multiple grid, (Interval.ofRank (rank + 1)).holds multiple grid = true ∧
      shortest (rank + 1) =
        ⟨stripZeros 20 multiple, grid + (digitCount multiple : Int) - 1⟩ := by
  have positive : 0 < Double.unitsOf (rank + 1) := by
    obtain ⟨gap, positive, next, _⟩ := Double.exists_gap rank
    omega
  set leading := decimalExponent (Double.unitsOf (rank + 1)) (Nat.pow 2 1075) with leadingDef
  set hit := (List.range 17).findSome? fun (count : Nat) =>
    (onGrid (rank + 1) (leading - (count : Int))).map fun multiple =>
      (multiple, leading - (count : Int)) with hitDef
  have sameNumeral : shortest (rank + 1) =
      ⟨stripZeros 20 (hit.getD (0, 0)).1,
        (hit.getD (0, 0)).2 + (digitCount (hit.getD (0, 0)).1 : Int) - 1⟩ := rfl
  have reached : gridUnits 1 leading ≤ Double.unitsOf (rank + 1) := by
    have bounded := zpow_decimalExponent_le positive units_pos
    rw [gridUnits, Nat.cast_one, one_mul]
    exact bounded
  have fine : 10 ^ 16 * gridUnits 1 (leading - (16 : Nat)) ≤ Double.unitsOf (rank + 1) :=
    (gridUnits_sub leading 16).le.trans reached
  have present : hit.isSome = true := by
    rw [hitDef, List.findSome?_isSome_iff]
    refine ⟨16, by decide, ?_⟩
    rw [Option.isSome_map]
    simp only [onGrid]
    rw [if_pos (holds_nearest fine)]
    rfl
  obtain ⟨⟨multiple, grid⟩, found⟩ := Option.isSome_iff_exists.mp present
  rw [found] at sameNumeral
  obtain ⟨count, _, tested⟩ := List.exists_of_findSome?_eq_some found
  obtain ⟨chosen, onThisGrid, same⟩ := Option.map_eq_some_iff.mp tested
  cases same
  exact ⟨multiple, _, holds_of_onGrid onThisGrid, sameNumeral⟩

/-- The number that a numeral stands for, in the units of magnitudes. -/
def Numeral.units (numeral : Numeral) : ℚ :=
  gridUnits numeral.digits (numeral.exponent - digitCount numeral.digits + 1)

/-- Zeros that are dropped go over into the grid. -/
theorem gridUnits_stripZeros (fuel : Nat) {multiple : Nat} (positive : 0 < multiple) (grid : Int) :
    gridUnits (stripZeros fuel multiple)
        (grid + digitCount multiple - digitCount (stripZeros fuel multiple)) =
      gridUnits multiple grid := by
  induction fuel generalizing multiple grid with
  | zero => rw [stripZeros, Int.add_sub_cancel]
  | succ fuel inductionHypothesis =>
      unfold stripZeros
      split
      · next trailing =>
          obtain ⟨shorter, rfl⟩ := Nat.dvd_of_mod_eq_zero trailing.2
          have shorterPositive : 0 < shorter := by omega
          rw [Nat.mul_div_cancel_left _ (by decide), digitCount_ten_mul shorterPositive]
          have onward := inductionHypothesis shorterPositive (grid + 1)
          have sameGrid : grid + ((digitCount shorter + 1 : Nat) : Int) =
              grid + 1 + digitCount shorter := by
            push_cast
            ring
          rw [sameGrid, onward, gridUnits, gridUnits, zpow_add₀ (by norm_num), zpow_one, Nat.cast_mul]
          push_cast
          ring
      · rw [Int.add_sub_cancel]

/-- A number inside the interval of a positive magnitude is positive. -/
theorem Interval.pos_of_holds {rank multiple : Nat} {grid : Int}
    (holds : (ofRank (rank + 1)).holds multiple grid = true) : 0 < multiple := by
  have positive : 0 < Double.unitsOf (rank + 1) := by
    obtain ⟨gap, positive, next, _⟩ := Double.exists_gap rank
    omega
  have lower : 0 < ((ofRank (rank + 1)).lower : ℚ) := by
    rw [ofRank, Nat.cast_pos]
    exact Nat.add_pos_right _ positive
  rw [holds_iff] at holds
  refine Nat.pos_of_ne_zero fun zero => ?_
  have nothing : gridUnits multiple grid = 0 := by rw [zero, gridUnits, Nat.cast_zero, zero_mul, zero_mul]
  rw [nothing] at holds
  split at holds <;> linarith [holds.1]

/-- The shortest numeral of a positive magnitude lies in its interval. -/
theorem exists_holds_shortest (rank : Nat) :
    ∃ multiple grid, (Interval.ofRank (rank + 1)).holds multiple grid = true ∧
      (shortest (rank + 1)).units = gridUnits multiple grid := by
  obtain ⟨multiple, grid, holds, same⟩ := exists_shortest_eq rank
  refine ⟨multiple, grid, holds, ?_⟩
  rw [same, Numeral.units, ← gridUnits_stripZeros 20 (Interval.pos_of_holds holds) grid]
  simp only
  congr 1
  ring

/-- A number in the intervals of two magnitudes does not lie between them. It would be the upper end of
one interval and the lower end of the other, and a shared end belongs to the even magnitude only. -/
theorem Interval.not_lt_of_holds {left right leftMultiple rightMultiple : Nat}
    {leftGrid rightGrid : Int} (leftHolds : (ofRank (left + 1)).holds leftMultiple leftGrid = true)
    (rightHolds : (ofRank (right + 1)).holds rightMultiple rightGrid = true)
    (same : gridUnits leftMultiple leftGrid = gridUnits rightMultiple rightGrid) : ¬left < right := by
  intro before
  have ends : ((ofRank (left + 1)).upper : ℚ) ≤ (ofRank (right + 1)).lower := by
    have first := Double.unitsOf_strictMono.monotone (show left + 1 ≤ right from before)
    have second := Double.unitsOf_strictMono.monotone (show left + 1 + 1 ≤ right + 1 by omega)
    simp only [ofRank, Nat.add_sub_cancel, Nat.cast_le]
    omega
  rw [holds_iff] at leftHolds rightHolds
  rw [same] at leftHolds
  by_cases leftClosed : (ofRank (left + 1)).closed = true
  · rw [if_pos leftClosed] at leftHolds
    by_cases rightClosed : (ofRank (right + 1)).closed = true
    · have leftEven : (left + 1) % 2 = 0 := of_decide_eq_true leftClosed
      have rightEven : (right + 1) % 2 = 0 := of_decide_eq_true rightClosed
      rw [if_pos rightClosed] at rightHolds
      have strict : ((ofRank (left + 1)).upper : ℚ) < (ofRank (right + 1)).lower := by
        have first := Double.unitsOf_strictMono (show left + 1 < right by omega)
        have second := Double.unitsOf_strictMono (show left + 1 + 1 < right + 1 by omega)
        simp only [ofRank, Nat.add_sub_cancel, Nat.cast_lt]
        omega
      linarith [leftHolds.2, rightHolds.1]
    · rw [if_neg rightClosed] at rightHolds
      linarith [leftHolds.2, rightHolds.1]
  · rw [if_neg leftClosed] at leftHolds
    split at rightHolds <;> linarith [leftHolds.2, rightHolds.1]

/-- The intervals of two magnitudes have no number in common. -/
theorem Interval.eq_of_holds {left right leftMultiple rightMultiple : Nat} {leftGrid rightGrid : Int}
    (leftHolds : (ofRank (left + 1)).holds leftMultiple leftGrid = true)
    (rightHolds : (ofRank (right + 1)).holds rightMultiple rightGrid = true)
    (same : gridUnits leftMultiple leftGrid = gridUnits rightMultiple rightGrid) : left = right := by
  have notLess := not_lt_of_holds leftHolds rightHolds same
  have notGreater := not_lt_of_holds rightHolds leftHolds same.symm
  omega

/-- Shortest numerals of positive magnitudes that stand for one number are those of one magnitude. -/
theorem eq_of_units_shortest_eq {left right : Nat} (leftPositive : 0 < left) (rightPositive : 0 < right)
    (same : (shortest left).units = (shortest right).units) : left = right := by
  obtain ⟨left, rfl⟩ := Nat.exists_eq_succ_of_ne_zero (Nat.ne_of_gt leftPositive)
  obtain ⟨right, rfl⟩ := Nat.exists_eq_succ_of_ne_zero (Nat.ne_of_gt rightPositive)
  obtain ⟨leftMultiple, leftGrid, leftHolds, leftUnits⟩ := exists_holds_shortest left
  obtain ⟨rightMultiple, rightGrid, rightHolds, rightUnits⟩ := exists_holds_shortest right
  exact congrArg Nat.succ
    (Interval.eq_of_holds leftHolds rightHolds (leftUnits.symm.trans (same.trans rightUnits)))

end Decimal

end Forms
