/-
This file proves what a bound on a number asks of an integer. Both are rounded to doubles before they
are compared, so the comparison is exact unless two different integers have the same nearest double.
-/

import Forms.Check.Standard
import Forms.Proofs.Double.Nearest

namespace Forms

namespace Double

variable {left right : Double} {first second : Int}

theorem sameNumber_iff (left right : Double) :
    left.sameNumber right = true ↔ left.units = right.units := by
  have before := position_lt_iff left right
  have after := position_lt_iff right left
  rw [sameNumber, decide_eq_true_eq]
  omega

theorem sameNumber_comm (left right : Double) : left.sameNumber right = right.sameNumber left := by
  rw [Bool.eq_iff_iff, sameNumber_iff, sameNumber_iff, eq_comm]

/-- Doubles that are nearest to integers compare like the integers unless they are the same number. -/
theorem lt_iff_of_isNearest (leftNearest : left.IsNearest first) (rightNearest : right.IsNearest second)
    (rounding : first = second → left = right) :
    left.lt right = true ↔ first < second ∧ left.sameNumber right = false := by
  have before := position_lt_iff left right
  rw [lt, decide_eq_true_eq, before, ← Bool.not_eq_true, sameNumber_iff]
  constructor
  · intro below
    refine ⟨?_, by omega⟩
    by_contra notBelow
    rcases Int.lt_or_eq_of_le (Int.not_lt.mp notBelow) with above | same
    · have turned := rightNearest.units_le leftNearest above
      omega
    · rw [rounding same.symm] at below
      omega
  · rintro ⟨below, apart⟩
    have kept := leftNearest.units_le rightNearest below
    omega

theorem le_iff_of_isNearest (leftNearest : left.IsNearest first) (rightNearest : right.IsNearest second)
    (rounding : first = second → left = right) :
    left.le right = true ↔ first ≤ second ∨ left.sameNumber right = true := by
  have turned := lt_iff_of_isNearest rightNearest leftNearest fun same => (rounding same.symm).symm
  rw [sameNumber_comm] at turned
  have opposite : left.le right = true ↔ ¬right.lt left = true := by
    rw [le, lt, decide_eq_true_eq, decide_eq_true_eq, Int.not_lt]
  rw [opposite, turned]
  cases left.sameNumber right <;> simp

/-- Only integers of at least 54 bits can be made equal. -/
theorem eq_or_large_of_sameNumber (leftNearest : left.IsNearest first)
    (rightNearest : right.IsNearest second) (together : left.sameNumber right = true) :
    first = second ∨ Nat.pow 2 53 ≤ first.natAbs ∧ Nat.pow 2 53 ≤ second.natAbs := by
  rw [sameNumber_iff] at together
  by_contra apart
  have bits : Nat.pow 2 53 = 2 * Nat.pow 2 52 := rfl
  rcases Int.lt_trichotomy first second with below | same | above
  · have kept := leftNearest.units_lt rightNearest below (by omega)
    omega
  · exact apart (.inl same)
  · have kept := rightNearest.units_lt leftNearest above (by omega)
    omega

end Double

/-- The integers that a value keeps as integers. -/
def Number.IsIntegral (value : Int) : Prop :=
  -(Nat.pow 2 63 : Int) ≤ value ∧ value < Nat.pow 2 64

theorem Number.IsIntegral.natAbs_lt {value : Int} (integral : Number.IsIntegral value) :
    value.natAbs < Nat.pow 2 64 := by
  have powers : Nat.pow 2 64 = 2 * Nat.pow 2 63 := rfl
  obtain ⟨least, most⟩ := integral
  omega

namespace StandardCheck

/-- What a check with a bound says by its name about an amount and the bound. -/
def comparison? : StandardCheck → Option (Int → Int → Prop)
  | .greater => some fun amount bound => bound < amount
  | .atLeast | .minimum => some fun amount bound => bound ≤ amount
  | .less => some fun amount bound => amount < bound
  | .atMost | .maximum => some fun amount bound => amount ≤ bound
  | _ => none

/-- A check of numbers compares an integer through the double that it is rounded to. -/
theorem number_eq_valid_iff {amount : Int} {rounded : Double}
    (rounds : Double.ofInt? amount = some rounded) (invalid message : String)
    (passes : Double → Bool) (site : Site) :
    number invalid message passes (.number (.int amount)) site = .valid ↔ passes rounded = true := by
  simp only [number, Check.present, Json.isAbsent, Json.amount?, Number.toDouble?, rounds]
  cases passes rounded <;> simp

/-- An integer bound is rounded too. -/
theorem numberMaker_integer {params : Json} {bound : Int} {rounded : Double}
    (states : Params.unwrap params "value" = .number (.int bound))
    (rounds : Double.ofInt? bound = some rounded) (key : MessageKey)
    (passes : (amount bound : Double) → Bool) (catalog : Catalog) :
    numberMaker key passes params catalog =
      .ok (number (catalog.formatKey .numberInvalid [])
        (catalog.formatKey key [(Number.int bound).text]) (passes · rounded)) := by
  simp only [numberMaker, Params.bound, states, Number.toDouble?, rounds]
  rfl

/-- A check with a comparison makes it on the nearest doubles of two integers. There it takes integers
with one nearest double for equal. -/
theorem exists_numberMaker {check : StandardCheck} {holds : Int → Int → Prop}
    (compares : check.comparison? = some holds)
    {amount bound : Int} {amountDouble boundDouble : Double}
    (amountNearest : amountDouble.IsNearest amount) (boundNearest : boundDouble.IsNearest bound)
    (rounding : amount = bound → amountDouble = boundDouble) :
    ∃ key passes, check.maker = numberMaker key passes ∧
      (passes amountDouble boundDouble = true ↔
        if amountDouble.sameNumber boundDouble then holds bound bound else holds amount bound) := by
  have turned (same : bound = amount) : boundDouble = amountDouble := (rounding same.symm).symm
  have less := Double.lt_iff_of_isNearest amountNearest boundNearest rounding
  have atMost := Double.le_iff_of_isNearest amountNearest boundNearest rounding
  have greater := Double.lt_iff_of_isNearest boundNearest amountNearest turned
  have atLeast := Double.le_iff_of_isNearest boundNearest amountNearest turned
  rw [Double.sameNumber_comm] at greater atLeast
  generalize amountDouble.sameNumber boundDouble = together at *
  cases check with
  | greater =>
      cases compares
      refine ⟨_, fun amount bound => bound.lt amount, rfl, ?_⟩
      show boundDouble.lt amountDouble = true ↔ _
      rw [greater]
      cases together <;> simp
  | less =>
      cases compares
      refine ⟨_, fun amount bound => amount.lt bound, rfl, ?_⟩
      show amountDouble.lt boundDouble = true ↔ _
      rw [less]
      cases together <;> simp
  | atLeast | minimum =>
      cases compares
      refine ⟨_, fun amount bound => bound.le amount, rfl, ?_⟩
      show boundDouble.le amountDouble = true ↔ _
      rw [atLeast]
      cases together <;> simp
  | atMost | maximum =>
      cases compares
      refine ⟨_, fun amount bound => amount.le bound, rfl, ?_⟩
      show amountDouble.le boundDouble = true ↔ _
      rw [atMost]
      cases together <;> simp
  | required | minLength | maxLength | pattern | email | oneOf | equalsField | date => cases compares

/-- Integers are compared with an integer bound as the check says, except that two integers with the
same nearest double count as equal. They have to be equal if one of them has less than 54 bits. -/
theorem integerBound_upTo_rounding {check : StandardCheck} {holds : Int → Int → Prop}
    (compares : check.comparison? = some holds) {amount bound : Int}
    (amountIntegral : Number.IsIntegral amount) (boundIntegral : Number.IsIntegral bound)
    {params : Json} (states : Params.unwrap params "value" = .number (.int bound)) (catalog : Catalog)
    (site : Site) :
    ∃ amountDouble boundDouble : Double,
      amountDouble.IsNearest amount ∧ boundDouble.IsNearest bound ∧
      (amountDouble.sameNumber boundDouble = true →
        amount = bound ∨ Nat.pow 2 53 ≤ amount.natAbs ∧ Nat.pow 2 53 ≤ bound.natAbs) ∧
      ∃ made, check.maker params catalog = .ok made ∧
        (made (.number (.int amount)) site = .valid ↔
          if amountDouble.sameNumber boundDouble then holds bound bound else holds amount bound) := by
  obtain ⟨amountDouble, amountRounds, amountNearest⟩ :=
    Double.exists_isNearest amountIntegral.natAbs_lt
  obtain ⟨boundDouble, boundRounds, boundNearest⟩ := Double.exists_isNearest boundIntegral.natAbs_lt
  have rounding (same : amount = bound) : amountDouble = boundDouble := by
    subst same
    exact Option.some.inj (amountRounds.symm.trans boundRounds)
  obtain ⟨key, passes, maker, agrees⟩ :=
    exists_numberMaker compares amountNearest boundNearest rounding
  have makes := numberMaker_integer states boundRounds key passes catalog
  rw [← maker] at makes
  refine ⟨amountDouble, boundDouble, amountNearest, boundNearest, ?_, _, makes, ?_⟩
  · intro together
    exact Double.eq_or_large_of_sameNumber amountNearest boundNearest together
  · exact (number_eq_valid_iff amountRounds _ _ _ site).trans agrees

/-- The greatest integer is found above a bound of 53 bits that is given as a member. -/
theorem greatest_above_bound :
    greater.comparison? = some (fun amount bound => bound < amount) ∧
      Number.IsIntegral (Nat.pow 2 64 - 1) ∧ Number.IsIntegral (Nat.pow 2 53 - 1) ∧
      ∃ made, greater.maker (.object [("value", .number (.int (Nat.pow 2 53 - 1)))]) .standard =
          .ok made ∧
        made (.number (.int (Nat.pow 2 64 - 1))) ⟨.root, .null⟩ = .valid := by
  have amountIntegral : Number.IsIntegral (Nat.pow 2 64 - 1) := ⟨by decide, by decide⟩
  have boundIntegral : Number.IsIntegral (Nat.pow 2 53 - 1) := ⟨by decide, by decide⟩
  have compares : greater.comparison? = some (fun amount bound => bound < amount) := rfl
  have states : Params.unwrap (.object [("value", .number (.int (Nat.pow 2 53 - 1)))]) "value" =
      .number (.int (Nat.pow 2 53 - 1)) := rfl
  obtain ⟨amountDouble, boundDouble, _, _, apart, made, makes, verdict⟩ :=
    integerBound_upTo_rounding compares amountIntegral boundIntegral states .standard ⟨.root, .null⟩
  refine ⟨compares, amountIntegral, boundIntegral, made, makes, verdict.mpr ?_⟩
  rw [if_neg fun same => absurd (apart same) (by decide)]
  decide

/-- Two to the power of 53 and its successor have the same nearest double. So no check tells them
apart. -/
theorem successor_not_told_apart :
    ∃ greaterMade lessMade atLeastMade atMostMade,
      greater.maker (.number (.int 9007199254740992)) .standard = .ok greaterMade ∧
      less.maker (.number (.int 9007199254740993)) .standard = .ok lessMade ∧
      atLeast.maker (.number (.int 9007199254740993)) .standard = .ok atLeastMade ∧
      atMost.maker (.number (.int 9007199254740992)) .standard = .ok atMostMade ∧
      greaterMade (.number (.int 9007199254740993)) ⟨.root, .null⟩ =
        .violation "Must be greater than 9007199254740992" ∧
      lessMade (.number (.int 9007199254740992)) ⟨.root, .null⟩ =
        .violation "Must be less than 9007199254740993" ∧
      atLeastMade (.number (.int 9007199254740992)) ⟨.root, .null⟩ = .valid ∧
      atMostMade (.number (.int 9007199254740993)) ⟨.root, .null⟩ = .valid := by
  refine ⟨_, _, _, _, rfl, rfl, rfl, rfl, ?_, ?_, ?_, ?_⟩ <;> decide +kernel

end StandardCheck

end Forms
