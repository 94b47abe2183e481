/-
This file proves what the standard checks find where there is no value. The required check finds the field
blank, and every other check leaves it alone.
-/

import Forms.Proofs.Check.Locality

namespace Forms

namespace Check

/-- A check that has nothing to say about null and blank texts. -/
def IgnoresAbsent (check : Check) : Prop :=
  ∀ value site, value.isAbsent = true → check value site = .valid

theorem ignoresAbsent_present (check : Check) : IgnoresAbsent (present check) := by
  intro value site absent
  rw [Check.present, if_pos absent]

end Check

namespace StandardCheck

variable {params : Json} {catalog : Catalog} {check : Check} {kind : StandardCheck}

theorem length?_of_isAbsent {value : Json} (absent : value.isAbsent = true) : value.length? = none := by
  cases value with
  | null => rfl
  | string text => exact if_pos absent
  | _ => cases absent

theorem ignoresAbsent_length (message : String) (passes : Nat → Bool) :
    (length message passes).IgnoresAbsent := by
  intro value site absent
  rw [length, Check.demand, length?_of_isAbsent absent]
  rfl

theorem ignoresAbsent_patternMaker (made : patternMaker params catalog = .ok check) :
    check.IgnoresAbsent := by
  obtain ⟨source, _, made⟩ := bind_eq_ok_iff.mp made
  exact of_bind_pure (fun _ _ => Check.ignoresAbsent_present _) made

theorem ignoresAbsent_dateMaker (made : dateMaker params catalog = .ok check) :
    check.IgnoresAbsent := by
  unfold dateMaker at made
  split at made
  · exact of_bind_pure (fun _ _ => Check.ignoresAbsent_present _) made
  · exact of_bind_pure (fun _ _ => Check.ignoresAbsent_present _) made

/-- Whatever the parameters are, a standard check that is not the required check leaves an empty field
alone. -/
theorem ignoresAbsent_of_maker (optional : kind ≠ .required)
    (made : kind.maker params catalog = .ok check) : check.IgnoresAbsent := by
  cases kind with
  | required => exact absurd rfl optional
  | minLength | maxLength => exact of_bind_pure (fun _ _ => ignoresAbsent_length _ _) made
  | pattern => exact ignoresAbsent_patternMaker made
  | date => exact ignoresAbsent_dateMaker made
  | greater | atLeast | less | atMost | minimum | maximum | email | oneOf | equalsField =>
      exact of_bind_pure (fun _ _ => Check.ignoresAbsent_present _) made

/-- An empty field violates the required check and no other standard check. -/
theorem verdict_of_isAbsent (made : kind.maker params catalog = .ok check) {value : Json}
    (absent : value.isAbsent = true) (site : Site) :
    check value site =
      if kind = .required then .violation (catalog.formatKey .valueRequired []) else .valid := by
  split
  · next required =>
      subst required
      cases made
      rw [Check.demand, Json.isBlank_of_isAbsent absent]
      rfl
  · next optional => exact ignoresAbsent_of_maker optional made value site absent

theorem name_eq_required_iff : kind.name = StandardCheck.required.name ↔ kind = .required := by
  cases kind <;> decide

end StandardCheck

section Standard

/-- The standard registry has standard makers only. -/
theorem Registry.usesStandard_standard {declaration : Declaration} {maker : Maker}
    (found : Registry.standard.makers.get? declaration.id = some maker) :
    Registry.standard.UsesStandard declaration := by
  have inserted := found
  rw [Registry.standard, Registry.withExtensions, OrderedMap.get?_insertAll,
    Option.or_eq_some_iff] at inserted
  rcases inserted with listed | ⟨_, empty⟩
  · obtain ⟨earlier, later, split, _⟩ := List.lookup_eq_some_iff.mp listed
    have member : (declaration.id, maker) ∈ StandardCheck.all.map fun check => (check.name, check.maker) := by
      rw [← List.mem_reverse, split]
      exact List.mem_append_cons_self
    obtain ⟨kind, _, same⟩ := List.mem_map.mp member
    obtain ⟨named, rfl⟩ := Prod.mk.inj same
    exact ⟨kind, named.symm, found⟩
  · cases empty

/-- A check of a standard form finds an empty field valid, unless it is declared as required. -/
theorem Compiler.verdict_of_isAbsent {compiler : Compiler} (standard : compiler.registry = .standard)
    {declaration : Declaration} {check : Check} (built : compiler.check? declaration = some check)
    {value : Json} (absent : value.isAbsent = true) (site : Site) :
    check value site =
      if declaration.isRequired then .violation (compiler.catalog.formatKey .valueRequired [])
      else .valid := by
  rw [Compiler.check?, standard] at built
  obtain ⟨maker, found, made⟩ := Option.bind_eq_some_iff.mp built
  obtain ⟨kind, named, registered⟩ := Registry.usesStandard_standard found
  obtain rfl : maker = kind.maker := Option.some.inj (found.symm.trans registered)
  rw [StandardCheck.verdict_of_isAbsent (toOption_eq_some_iff.mp made) absent]
  simp only [Declaration.isRequired, named, beq_iff_eq, StandardCheck.name_eq_required_iff]

end Standard

end Forms
