/-
This file proves which templates a path is an instance of. Among templates that name no position it is
only one: the path itself with every position left open.
-/

import Forms.Proofs.Path.Instances

namespace Forms

/-- A position is left open. -/
def Step.generalize : Step → Step
  | .index _ => .item
  | step => step

/-- A schema declares the keys and the placeholders of the paths of its fields. -/
def Step.IsDeclared : Step → Prop
  | .key name => Path.isValidKey name = true
  | .index _ => False
  | .item => True

namespace Path

/-- The path with every position left open. -/
def generalize (path : Path) : Path := ⟨path.steps.map Step.generalize⟩

/-- A general path names no position. -/
def IsGeneral (path : Path) : Prop := ∀ position, .index position ∉ path.steps

theorem stepMatches_iff_generalize {step pattern : Step}
    (unplaced : ∀ position, pattern ≠ .index position) :
    stepMatches step pattern = true ↔ pattern = step.generalize := by
  cases pattern with
  | index position => exact absurd rfl (unplaced position)
  | key name => cases step <;> simp [stepMatches, Step.generalize, eq_comm (a := name)]
  | item => cases step <;> simp [stepMatches, Step.generalize]

/-- A path is an instance of the general template that it becomes, and of no other one. -/
theorem isInstanceOf_iff_generalize {path template : Path} (general : template.IsGeneral) :
    path.isInstanceOf template = true ↔ template = path.generalize := by
  obtain ⟨steps⟩ := path
  obtain ⟨patterns⟩ := template
  rw [isInstanceOf_iff, generalize, Path.mk.injEq]
  simp only [IsGeneral] at general
  induction patterns generalizing steps with
  | nil => cases steps <;> simp
  | cons pattern patterns inductionHypothesis =>
      have unplaced (position : Nat) : pattern ≠ .index position := fun same =>
        general position (by simp [same])
      have later := fun steps => inductionHypothesis steps fun position member =>
        general position (List.mem_cons_of_mem pattern member)
      cases steps with
      | nil => simp
      | cons step steps =>
          rw [List.forall₂_cons, stepMatches_iff_generalize unplaced, later, List.map_cons,
            List.cons.injEq]

/-- An instance and its template have one general form. -/
theorem generalize_eq_of_isInstanceOf {path template : Path} (matched : path.isInstanceOf template = true) :
    path.generalize = template.generalize := by
  have sameStep {step pattern : Step} (matched : stepMatches step pattern = true) :
      step.generalize = pattern.generalize := by
    cases step <;> cases pattern <;> simp_all [stepMatches, Step.generalize]
  have sameSteps {steps patterns : List Step}
      (matched : List.Forall₂ (stepMatches · · = true) steps patterns) :
      steps.map Step.generalize = patterns.map Step.generalize := by
    induction matched with
    | nil => rfl
    | cons first _ inductionHypothesis =>
        rw [List.map_cons, List.map_cons, sameStep first, inductionHypothesis]
  exact congrArg Path.mk (sameSteps (isInstanceOf_iff.mp matched))

theorem generalize_eq_self {path : Path} (general : path.IsGeneral) : path.generalize = path := by
  have same : path.steps.map Step.generalize = path.steps.map id := by
    refine List.map_congr_left fun step member => ?_
    cases step with
    | index position => exact absurd member (general position)
    | key name => rfl
    | item => rfl
  rw [generalize, same, List.map_id]

/-- A path whose general form has no placeholder has no positions to leave open. -/
theorem generalize_eq_self_of_concrete {path : Path} (concrete : path.generalize.isTemplate = false) :
    path.generalize = path := by
  refine generalize_eq_self fun position member => ?_
  rw [isTemplate_eq_false_iff] at concrete
  exact concrete (List.mem_map.mpr ⟨.index position, member, rfl⟩)

theorem isGeneral_of_isDeclared {path : Path} (declared : ∀ step ∈ path.steps, step.IsDeclared) :
    path.IsGeneral :=
  fun position member => declared (.index position) member

end Path

end Forms
