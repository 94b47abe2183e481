/-
This file proves how far checks look. A local check sees the value of its field and the members beside
the field, and nothing else of the form. The standard checks are local unless they compare their field
with one that is named from the root.
-/

import Forms.Proofs.Compiler.Workshop

namespace Forms

namespace Check

/-- What comes out depends on the value and on the members beside the field only. -/
def IsLocal {Result : Type} (look : Json → Site → Result) : Prop :=
  ∀ value (left right : Site), (∀ key, left.sibling? key = right.sibling? key) →
    look value left = look value right

theorem isLocal_value {Result : Type} (look : Json → Result) : IsLocal fun value _ => look value :=
  fun _ _ _ _ => rfl

theorem IsLocal.demand {passes : Json → Site → Bool} (isLocal : IsLocal passes) (message : String) :
    IsLocal (demand message passes) := by
  intro value left right same
  rw [Check.demand, Check.demand, isLocal value left right same]

theorem IsLocal.present {check : Check} (isLocal : IsLocal check) : IsLocal (present check) := by
  intro value left right same
  rw [Check.present, Check.present, isLocal value left right same]

end Check

namespace StandardCheck

variable {params : Json} {catalog : Catalog} {check : Check}

theorem isLocal_length (message : String) (passes : Nat → Bool) :
    Check.IsLocal (length message passes) :=
  (Check.isLocal_value _).demand message

theorem isLocal_number (invalid message : String) (passes : Double → Bool) :
    Check.IsLocal (number invalid message passes) :=
  (Check.isLocal_value _).present

theorem isLocal_matching (message : String) (expression : Pattern.Expression) :
    Check.IsLocal (matching message expression) :=
  ((Check.isLocal_value _).demand message).present

theorem isLocal_dated (message layout : String) : Check.IsLocal (dated message layout) :=
  ((Check.isLocal_value _).demand message).present

/-- A bare reference leads to a member beside the field. -/
theorem isLocal_equals {reference : String} (bare : Site.isAbsolute reference = false)
    (message : String) : Check.IsLocal (equals message reference) := by
  refine (Check.IsLocal.demand ?_ message).present
  intro value left right same
  have beside (site : Site) : site.resolve? reference = site.sibling? reference := by
    rw [Site.resolve?, bare]
    rfl
  simp only [beside, same]

theorem isLocal_patternMaker (made : patternMaker params catalog = .ok check) :
    Check.IsLocal check := by
  obtain ⟨source, _, made⟩ := bind_eq_ok_iff.mp made
  exact of_bind_pure (fun _ _ => isLocal_matching _ _) made

theorem isLocal_dateMaker (made : dateMaker params catalog = .ok check) : Check.IsLocal check := by
  unfold dateMaker at made
  split at made
  · exact of_bind_pure (fun _ _ => isLocal_dated _ _) made
  · exact of_bind_pure (fun _ _ => isLocal_dated _ _) made

/-- A standard check looks no farther than the members beside its field, when it is not a comparison
with a field that is named from the root. -/
theorem isLocal_of_maker {standard : StandardCheck}
    (bare : standard = .equalsField → ∀ reference, Params.text params "field" = .ok reference →
      Site.isAbsolute reference = false)
    (made : standard.maker params catalog = .ok check) : Check.IsLocal check := by
  cases standard with
  | required =>
      cases made
      exact (Check.isLocal_value _).demand _
  | minLength | maxLength => exact of_bind_pure (fun _ _ => isLocal_length _ _) made
  | greater | atLeast | less | atMost | minimum | maximum =>
      exact of_bind_pure (fun _ _ => isLocal_number _ _ _) made
  | pattern => exact isLocal_patternMaker made
  | email => exact of_bind_pure (fun _ _ => isLocal_matching _ _) made
  | oneOf =>
      have isLocal (allowed : List Json) (message : String) : Check.IsLocal
          (Check.present (.demand message fun value _ => allowed.any (·.same value))) :=
        ((Check.isLocal_value _).demand message).present
      exact of_bind_pure (fun allowed _ => isLocal allowed _) made
  | equalsField => exact of_bind_pure (fun _ named => isLocal_equals (bare rfl _ named) _) made
  | date => exact isLocal_dateMaker made

end StandardCheck

/-- The registry builds the declaration with a standard maker. -/
def Registry.UsesStandard (registry : Registry) (declaration : Declaration) : Prop :=
  ∃ check : StandardCheck,
    declaration.id = check.name ∧ registry.makers.get? declaration.id = some check.maker

/-- A comparison of two fields names the other field by its key alone. -/
def Declaration.NamesSibling (declaration : Declaration) : Prop :=
  declaration.id = StandardCheck.equalsField.name →
    ∀ reference, Params.text declaration.params "field" = .ok reference →
      Site.isAbsolute reference = false

theorem Compiler.isLocal_of_check? {compiler : Compiler} {declaration : Declaration} {check : Check}
    (standard : compiler.registry.UsesStandard declaration) (bare : declaration.NamesSibling)
    (built : compiler.check? declaration = some check) : Check.IsLocal check := by
  obtain ⟨kind, named, registered⟩ := standard
  rw [Compiler.check?, registered, Option.bind_some, toOption_eq_some_iff] at built
  refine StandardCheck.isLocal_of_maker (fun compares => bare ?_) built
  rw [named, compares]

end Forms
