/-
This file proves facts about results that are a value or a fault: when a chain of steps has a value, and
what remains of a chain when its faults are forgotten.
-/

import Mathlib.Data.List.Forall2

namespace Forms

variable {Fault Value Next : Type} {value : Value} {next : Next}

/-- A chain has a value when every step has one. -/
theorem bind_eq_ok_iff {first : Except Fault Value} {after : Value → Except Fault Next} :
    first >>= after = .ok next ↔ ∃ value, first = .ok value ∧ after value = .ok next := by
  cases first with
  | error fault => simp [bind, Except.bind]
  | ok value => simp [bind, Except.bind]

/-- What holds of everything that the last step builds holds of the value of the chain. -/
theorem of_bind_pure {Holds : Next → Prop} {first : Except Fault Value} {build : Value → Next}
    (each : ∀ value, first = .ok value → Holds (build value))
    (made : (first >>= fun value => pure (build value)) = .ok next) : Holds next := by
  obtain ⟨value, found, built⟩ := bind_eq_ok_iff.mp made
  cases built
  exact each value found

theorem map_eq_ok_iff {change : Value → Next} {result : Except Fault Value} :
    change <$> result = .ok next ↔ ∃ value, result = .ok value ∧ change value = next := by
  cases result <;> simp [Functor.map, Except.map]

/-- Steps that do not depend on each other have values when each of them has one. -/
theorem mapM_eq_ok_iff {step : Value → Except Fault Next} {values : List Value} {results : List Next} :
    values.mapM step = .ok results ↔
      List.Forall₂ (fun value result => step value = .ok result) values results := by
  induction values generalizing results with
  | nil => simp [pure, Except.pure, eq_comm]
  | cons value values inductionHypothesis =>
      rw [List.mapM_cons, List.forall₂_cons_left_iff, bind_eq_ok_iff]
      constructor
      · rintro ⟨result, first, onward⟩
        obtain ⟨rest, later, same⟩ := bind_eq_ok_iff.mp onward
        cases same
        exact ⟨result, rest, first, inductionHypothesis.mp later, rfl⟩
      · rintro ⟨result, rest, first, later, rfl⟩
        exact ⟨result, first, bind_eq_ok_iff.mpr ⟨rest, inductionHypothesis.mpr later, rfl⟩⟩

/-- Some results exist when each step has a value. -/
theorem exists_mapM_eq_ok_iff {step : Value → Except Fault Next} {values : List Value} :
    (∃ results, values.mapM step = .ok results) ↔ ∀ value ∈ values, ∃ result, step value = .ok result := by
  simp only [mapM_eq_ok_iff]
  induction values with
  | nil => simp
  | cons value values inductionHypothesis =>
      rw [List.forall_mem_cons, ← inductionHypothesis]
      constructor
      · rintro ⟨_, read⟩
        obtain ⟨result, results, first, later, rfl⟩ := List.forall₂_cons_left_iff.mp read
        exact ⟨⟨result, first⟩, results, later⟩
      · rintro ⟨⟨result, first⟩, results, later⟩
        exact ⟨result :: results, .cons first later⟩

/-- There is a fault when there is no value. -/
theorem exists_error_iff {result : Except Fault Value} :
    (∃ fault, result = .error fault) ↔ ¬ ∃ value, result = .ok value := by
  cases result <;> simp

theorem map_eq_error_iff {change : Value → Next} {result : Except Fault Value} {fault : Fault} :
    change <$> result = .error fault ↔ result = .error fault := by
  cases result <;> simp [Functor.map, Except.map]

theorem isOk_map (result : Except Fault Value) (change : Value → Next) :
    (change <$> result).isOk = result.isOk := by
  cases result <;> rfl

/-- A chain fails at its first step, or later when the first step has a value. -/
theorem bind_eq_error_iff {first : Except Fault Value} {after : Value → Except Fault Next}
    {fault : Fault} :
    first >>= after = .error fault ↔
      first = .error fault ∨ ∃ value, first = .ok value ∧ after value = .error fault := by
  cases first <;> simp [bind, Except.bind]

theorem toOption_eq_some_iff {result : Except Fault Value} :
    result.toOption = some value ↔ result = .ok value := by
  cases result with
  | error fault => simp [Except.toOption]
  | ok value => simp [Except.toOption]

theorem toOption_bind (first : Except Fault Value) (after : Value → Except Fault Next) :
    (first >>= after).toOption = first.toOption.bind fun value => (after value).toOption := by
  cases first <;> rfl

/-- Chains agree on their values when their steps do. -/
theorem toOption_bind_congr {first other : Except Fault Value} {after next : Value → Except Fault Next}
    (same : first.toOption = other.toOption)
    (each : ∀ value, (after value).toOption = (next value).toOption) :
    (first >>= after).toOption = (other >>= next).toOption := by
  rw [toOption_bind, toOption_bind, same]
  exact congrArg (Option.bind _) (funext each)

theorem toOption_map (result : Except Fault Value) (change : Value → Next) :
    (change <$> result).toOption = result.toOption.map change := by
  cases result <;> rfl

theorem toOption_map_congr {result other : Except Fault Value} (change : Value → Next)
    (same : result.toOption = other.toOption) :
    (change <$> result).toOption = (change <$> other).toOption := by
  rw [toOption_map, toOption_map, same]

end Forms
