/-
This file proves what a common start does to paths and templates. Where a concrete path leads to a part
of a value, the templates below it stand for the paths that start with it and that the general templates
stand for as well.
-/

import Forms.Proofs.Path.General

namespace Forms

namespace Path

/-- The path that goes on with some steps. -/
def extend (path : Path) (steps : List Step) : Path := ⟨path.steps ++ steps⟩

/-- A path starts with another one when it goes on from there. -/
def startsWith (path base : Path) : Bool := base.steps.isPrefixOf path.steps

/-- A path that starts with the old path starts with the new one instead. Other paths stay. -/
def rebase (old new path : Path) : Path :=
  if path.startsWith old then new.extend (path.steps.drop old.length) else path

variable {base path : Path} {steps : List Step}

theorem startsWith_iff : path.startsWith base = true ↔ ∃ steps, path = base.extend steps := by
  rw [startsWith, List.isPrefixOf_iff_prefix]
  constructor
  · rintro ⟨steps, same⟩
    exact ⟨steps, congrArg Path.mk same.symm⟩
  · rintro ⟨steps, rfl⟩
    exact ⟨steps, rfl⟩

theorem startsWith_extend (base : Path) (steps : List Step) :
    (base.extend steps).startsWith base = true :=
  startsWith_iff.mpr ⟨steps, rfl⟩

@[simp] theorem extend_nil (base : Path) : base.extend [] = base := by
  rw [extend, List.append_nil]

theorem extend_push (base : Path) (steps : List Step) (step : Step) :
    (base.extend steps).push step = base.extend (steps ++ [step]) := by
  rw [push, extend, extend, List.append_assoc]

@[simp] theorem rebase_extend (old new : Path) (steps : List Step) :
    rebase old new (old.extend steps) = new.extend steps := by
  have dropped : (old.extend steps).steps.drop old.length = steps := List.drop_left
  rw [rebase, if_pos (startsWith_extend old steps), dropped]

theorem generalize_extend (base : Path) (steps : List Step) :
    (base.extend steps).generalize = base.generalize.extend (steps.map Step.generalize) := by
  rw [generalize, extend, List.map_append, extend, generalize]

theorem keyNames_extend (base : Path) (steps : List Step) :
    (base.extend steps).keyNames = base.keyNames ++ keyNames ⟨steps⟩ := by
  rw [keyNames, extend, List.filterMap_append]
  rfl

/-- Positions are no keys. -/
theorem keyNames_generalize (path : Path) : path.generalize.keyNames = path.keyNames := by
  rw [keyNames, generalize, List.filterMap_map, keyNames]
  refine List.filterMap_congr fun step _ => ?_
  cases step <;> rfl

section Expansion

variable {front template rest : List Step} {value : Option Json} {element : Json}

theorem stepMatches_self (step : Step) : stepMatches step step = true := by
  cases step <;> simp [stepMatches]

/-- Only a placeholder matches another step than itself. -/
theorem stepMatches_iff_eq {step pattern : Step} (named : pattern ≠ .item) :
    stepMatches step pattern = true ↔ step = pattern := by
  cases step <;> cases pattern <;> simp_all [stepMatches]

theorem bind_lookupSteps_cons (step : Step) (front : List Step) (value : Option Json) :
    value.bind (lookupSteps (step :: front)) =
      (value.bind (lookupStep · step)).bind (lookupSteps front) := by
  rw [Option.bind_assoc]
  rfl

/-- An expansion keeps the steps before the first placeholder, and it goes on from the part of the value
that they lead to. -/
theorem mem_expand_append (concrete : .item ∉ front) :
    steps ∈ expand (front ++ template) value ↔
      ∃ rest, steps = front ++ rest ∧ rest ∈ expand template (value.bind (lookupSteps front)) := by
  induction front generalizing steps value with
  | nil =>
      have whole : value.bind (lookupSteps []) = value := by cases value <;> rfl
      simp [whole]
  | cons step front inductionHypothesis =>
      obtain ⟨here, later⟩ := not_or.mp (mt List.mem_cons.mpr concrete)
      have named : step ≠ .item := Ne.symm here
      rw [bind_lookupSteps_cons, List.cons_append]
      constructor
      · intro member
        cases steps with
        | nil => exact absurd member (nil_not_mem_expand _ _ _)
        | cons first steps =>
            obtain ⟨matched, _, _, onward⟩ := cons_mem_expand.mp member
            obtain rfl := (stepMatches_iff_eq named).mp matched
            obtain ⟨rest, rfl, inside⟩ := (inductionHypothesis later).mp onward
            exact ⟨rest, rfl, inside⟩
      · rintro ⟨rest, rfl, inside⟩
        refine cons_mem_expand.mpr ⟨stepMatches_self step, named, fun placeholder => ?_, ?_⟩
        · exact absurd placeholder named
        · exact (inductionHypothesis later).mpr ⟨rest, rfl, inside⟩

/-- Where concrete steps lead to a part of the value, their general form stands for them. -/
theorem append_mem_expand_generalize (concrete : .item ∉ front)
    (reached : value.bind (lookupSteps front) = some element) :
    front ++ rest ∈ expand (front.map Step.generalize ++ template) value ↔
      rest ∈ expand template (some element) := by
  induction front generalizing value with
  | nil =>
      have whole : value.bind (lookupSteps []) = value := by cases value <;> rfl
      rw [← reached, whole]
      rfl
  | cons step front inductionHypothesis =>
      obtain ⟨here, later⟩ := not_or.mp (mt List.mem_cons.mpr concrete)
      rw [bind_lookupSteps_cons] at reached
      rw [List.map_cons, List.cons_append, List.cons_append, cons_mem_expand,
        inductionHypothesis later reached]
      have matched : stepMatches step step.generalize = true := by
        cases step <;> simp [stepMatches, Step.generalize]
      -- A position that leads on lies in an array with that element.
      have room : StepReached step step.generalize value := by
        intro placeholder
        obtain ⟨inner, found, _⟩ := Option.bind_eq_some_iff.mp reached
        obtain ⟨whole, rfl, found⟩ := Option.bind_eq_some_iff.mp found
        cases step with
        | key name => cases placeholder
        | item => exact absurd rfl here
        | index position =>
            cases whole with
            | array items =>
                obtain ⟨inside, _⟩ := List.getElem?_eq_some_iff.mp found
                exact ⟨position, items, rfl, rfl, inside⟩
            | _ => cases found
      exact ⟨fun both => both.2.2.2, fun inside => ⟨matched, Ne.symm here, room, inside⟩⟩

end Expansion

/-- Where a concrete path leads to a part of the values, a template below it stands for the paths that
start with it and that the template below its general form stands for. -/
theorem mem_instances_extend {values element : Json} (concrete : base.isTemplate = false)
    (reached : base.lookup values = some element) :
    path ∈ (base.extend steps).instances values ↔
      path.startsWith base = true ∧ path ∈ (base.generalize.extend steps).instances values := by
  rw [isTemplate_eq_false_iff] at concrete
  have below : path.steps ∈ expand (base.steps ++ steps) (some values) ↔
      ∃ rest, path.steps = base.steps ++ rest ∧ rest ∈ expand steps (base.lookup values) :=
    mem_expand_append concrete
  have general {rest : List Step} :
      base.steps ++ rest ∈ expand (base.steps.map Step.generalize ++ steps) (some values) ↔
        rest ∈ expand steps (some element) :=
    append_mem_expand_generalize concrete reached
  rw [mem_instances_iff_steps, mem_instances_iff_steps, startsWith_iff]
  refine below.trans ?_
  rw [reached]
  constructor
  · rintro ⟨rest, same, inside⟩
    refine ⟨⟨rest, congrArg Path.mk same⟩, ?_⟩
    rw [same]
    exact general.mpr inside
  · rintro ⟨⟨rest, rfl⟩, inside⟩
    exact ⟨rest, rfl, general.mp inside⟩

end Path

end Forms
