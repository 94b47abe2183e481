/-
This file proves what a template stands for in a value: the concrete paths that match the template and
that the arrays of the value have room for, each of them once and in the order of paths.
-/

import Forms.Path.Basic
import Mathlib.Data.List.Forall2

namespace Forms

namespace Path

/-- The path of the first steps. -/
def take (path : Path) (count : Nat) : Path := ⟨path.steps.take count⟩

/-- Every placeholder of the template meets an array that has the element of the path. -/
def ReachedIn (path template : Path) (value : Json) : Prop :=
  ∀ place, template.steps[place]? = some .item →
    ∃ position items, path.steps[place]? = some (.index position) ∧
      (path.take place).lookup value = some (.array items) ∧ position < items.length

/-- The same for lists of steps from a part of a value that may be missing. -/
def StepsReached (steps template : List Step) (value : Option Json) : Prop :=
  ∀ place, template[place]? = some .item →
    ∃ position items, steps[place]? = some (.index position) ∧
      value.bind (lookupSteps (steps.take place)) = some (.array items) ∧ position < items.length

/-- One placeholder asks for one array. -/
def StepReached (step pattern : Step) (value : Option Json) : Prop :=
  pattern = .item →
    ∃ position items, step = .index position ∧ value = some (.array items) ∧ position < items.length

theorem stepsReached_cons {step pattern : Step} {steps template : List Step}
    {value : Option Json} :
    StepsReached (step :: steps) (pattern :: template) value ↔
      StepReached step pattern value ∧
        StepsReached steps template (value.bind (lookupStep · step)) := by
  have later (place : Nat) : value.bind (lookupSteps ((step :: steps).take (place + 1))) =
      (value.bind (lookupStep · step)).bind (lookupSteps (steps.take place)) := by
    simp only [List.take_succ_cons, lookupSteps, Option.bind_assoc]
  have first : value.bind (lookupSteps ((step :: steps).take 0)) = value := by
    cases value <;> rfl
  constructor
  · intro reached
    refine ⟨fun placeholder => ?_, fun place placeholder => ?_⟩
    · obtain ⟨position, items, found, array, inside⟩ := reached 0 (by rw [placeholder]; rfl)
      rw [first] at array
      exact ⟨position, items, by simpa using found, array, inside⟩
    · obtain ⟨position, items, found, array, inside⟩ := reached (place + 1) (by simpa using placeholder)
      rw [later] at array
      exact ⟨position, items, by simpa using found, array, inside⟩
  · rintro ⟨head, tail⟩ place placeholder
    cases place with
    | zero =>
        obtain ⟨position, items, found, array, inside⟩ := head (by simpa using placeholder)
        exact ⟨position, items, by rw [found]; rfl, by rw [first, array], inside⟩
    | succ place =>
        obtain ⟨position, items, found, array, inside⟩ := tail place (by simpa using placeholder)
        exact ⟨position, items, by simpa using found, by rw [later, array], inside⟩

theorem nil_not_mem_expand (pattern : Step) (template : List Step) (value : Option Json) :
    [] ∉ expand (pattern :: template) value := by
  cases pattern with
  | key name => simp [expand]
  | index position => simp [expand]
  | item =>
      simp only [expand]
      split <;> simp

/-- The first step of an expansion matches the first step of the template. The rest goes on from the
part of the value that the first step leads to. -/
theorem cons_mem_expand {step pattern : Step} {steps template : List Step} {value : Option Json} :
    step :: steps ∈ expand (pattern :: template) value ↔
      stepMatches step pattern = true ∧ step ≠ .item ∧ StepReached step pattern value ∧
        steps ∈ expand template (value.bind (lookupStep · step)) := by
  cases pattern with
  | key name =>
      simp only [expand, List.mem_map, List.cons.injEq, stepMatches, StepReached, reduceCtorEq,
        false_implies, true_and]
      constructor
      · rintro ⟨tail, member, rfl, rfl⟩
        exact ⟨by simp, by simp, member⟩
      · rintro ⟨same, _, member⟩
        obtain rfl : step = .key name := by simpa using same
        exact ⟨steps, member, rfl, rfl⟩
  | index position =>
      simp only [expand, List.mem_map, List.cons.injEq, StepReached, reduceCtorEq, false_implies,
        true_and]
      constructor
      · rintro ⟨tail, member, rfl, rfl⟩
        exact ⟨by simp [stepMatches], by simp, member⟩
      · rintro ⟨same, _, member⟩
        obtain rfl : step = .index position := by simpa [stepMatches] using same
        exact ⟨steps, member, rfl, rfl⟩
  | item =>
      constructor
      · intro member
        simp only [expand] at member
        split at member
        · next items =>
            obtain ⟨⟨element, position⟩, listed, member⟩ := List.mem_flatMap.mp member
            obtain ⟨tail, member, same⟩ := List.mem_map.mp member
            obtain ⟨rfl, rfl⟩ := List.cons.inj same
            have found := List.mem_zipIdx_iff_getElem?.mp listed
            obtain ⟨inside, _⟩ := List.getElem?_eq_some_iff.mp found
            refine ⟨rfl, by simp, fun _ => ⟨position, items, rfl, rfl, inside⟩, ?_⟩
            simpa [lookupStep, Json.item?, found] using member
        · cases member
      · rintro ⟨_, _, reached, member⟩
        obtain ⟨position, items, rfl, rfl, inside⟩ := reached rfl
        have found : items[position]? = some items[position] := List.getElem?_eq_getElem inside
        simp only [Option.bind_some, lookupStep, Json.item?, found] at member
        exact List.mem_flatMap.mpr ⟨(items[position], position),
          List.mem_zipIdx_iff_getElem?.mpr found, List.mem_map.mpr ⟨steps, member, rfl⟩⟩

theorem mem_expand {steps template : List Step} {value : Option Json} :
    steps ∈ expand template value ↔
      List.Forall₂ (stepMatches · · = true) steps template ∧ .item ∉ steps ∧
        StepsReached steps template value := by
  induction template generalizing steps value with
  | nil => cases steps <;> simp [expand, StepsReached]
  | cons pattern template inductionHypothesis =>
      cases steps with
      | nil => simp [nil_not_mem_expand]
      | cons step steps =>
          rw [cons_mem_expand, inductionHypothesis, List.forall₂_cons, stepsReached_cons,
            List.mem_cons, not_or, ne_comm]
          tauto

theorem isInstanceOf_iff {path template : Path} :
    path.isInstanceOf template = true ↔
      List.Forall₂ (stepMatches · · = true) path.steps template.steps := by
  rw [List.forall₂_iff_zip, isInstanceOf, Bool.and_eq_true, beq_iff_eq, List.all_eq_true]
  exact and_congr_right fun _ => Prod.forall

theorem isTemplate_eq_false_iff {path : Path} : path.isTemplate = false ↔ .item ∉ path.steps := by
  simpa [isTemplate] using List.forall_mem_ne'

/-- A path without placeholders has no other instance than itself. -/
theorem eq_of_isInstanceOf {path pattern : Path} (concrete : pattern.isTemplate = false)
    (matched : path.isInstanceOf pattern = true) : path = pattern := by
  obtain ⟨steps⟩ := path
  obtain ⟨patterns⟩ := pattern
  rw [isTemplate_eq_false_iff] at concrete
  rw [isInstanceOf_iff] at matched
  simp only at concrete matched
  induction matched with
  | nil => rfl
  | @cons step pattern steps patterns first _ inductionHypothesis =>
      rw [List.mem_cons, not_or] at concrete
      have sameStep : step = pattern := by
        cases pattern with
        | item => exact absurd rfl concrete.1
        | key name => simpa [stepMatches] using first
        | index position => simpa [stepMatches] using first
      rw [sameStep, Path.mk.inj (inductionHypothesis concrete.2)]

theorem mem_instances_iff_steps {path template : Path} {value : Json} :
    path ∈ template.instances value ↔ path.steps ∈ expand template.steps (some value) := by
  constructor
  · intro listed
    obtain ⟨steps, member, rfl⟩ := List.mem_map.mp listed
    exact member
  · exact fun member => List.mem_map.mpr ⟨path.steps, member, rfl⟩

/-- A template stands for the concrete paths that match it and that the value has room for. -/
theorem mem_instances {path template : Path} {value : Json} :
    path ∈ template.instances value ↔
      path.isTemplate = false ∧ path.isInstanceOf template = true ∧
        path.ReachedIn template value := by
  rw [mem_instances_iff_steps, mem_expand, isTemplate_eq_false_iff, isInstanceOf_iff]
  exact and_left_comm

/-- A common first step does not change the order of lists of steps. -/
theorem compare_cons_self (step : Step) (left right : List Step) :
    compare (step :: left) (step :: right) = compare left right := by
  rw [List.compare_cons_cons, Std.ReflOrd.compare_self, Ordering.eq_then]

theorem pairwise_map_cons (step : Step) {expansions : List (List Step)}
    (increasing : expansions.Pairwise (compare · · = .lt)) :
    (expansions.map (step :: ·)).Pairwise (compare · · = .lt) := by
  rw [List.pairwise_map]
  exact increasing.imp fun below => by rw [compare_cons_self, below]

theorem expand_increasing (template : List Step) (value : Option Json) :
    (expand template value).Pairwise (compare · · = .lt) := by
  induction template generalizing value with
  | nil => simp [expand]
  | cons pattern template inductionHypothesis =>
      cases pattern with
      | key name => exact pairwise_map_cons _ (inductionHypothesis _)
      | index position => exact pairwise_map_cons _ (inductionHypothesis _)
      | item =>
          simp only [expand]
          split
          · next items =>
              refine List.pairwise_flatMap.mpr
                ⟨fun _ _ => pairwise_map_cons _ (inductionHypothesis _), ?_⟩
              -- Expansions for different elements already differ in order at their first step.
              have ordered : items.zipIdx.Pairwise fun left right => left.2 < right.2 := by
                have positions : (items.zipIdx.map Prod.snd).Pairwise (· < ·) := by
                  rw [List.zipIdx_map_snd]
                  exact List.pairwise_lt_range'
                exact List.pairwise_map.mp positions
              refine ordered.imp fun {left right} before first member second other => ?_
              obtain ⟨_, _, rfl⟩ := List.mem_map.mp member
              obtain ⟨_, _, rfl⟩ := List.mem_map.mp other
              have below : compare (Step.index left.2) (.index right.2) = .lt :=
                Nat.compare_eq_lt.mpr before
              rw [List.compare_cons_cons, below, Ordering.lt_then]
          · exact .nil

/-- The paths that a template stands for are listed in order, so none of them occurs twice. -/
theorem instances_increasing (template : Path) (value : Json) :
    (template.instances value).Pairwise (compare · · = .lt) := by
  rw [instances, List.pairwise_map]
  exact expand_increasing template.steps (some value)

theorem instances_nodup (template : Path) (value : Json) : (template.instances value).Nodup := by
  refine (instances_increasing template value).imp fun below same => ?_
  rw [same, Std.ReflOrd.compare_self] at below
  cases below

/-- The instances of a template in a value are exactly the concrete paths that match it and that the
value has room for. They are listed in strict order, each of them once. -/
theorem instances_exact (template : Path) (value : Json) :
    (∀ path, path ∈ template.instances value ↔
      path.isTemplate = false ∧ path.isInstanceOf template = true ∧
        path.ReachedIn template value) ∧
      (template.instances value).Pairwise (compare · · = .lt) ∧
      (template.instances value).Nodup :=
  ⟨fun _ => mem_instances, instances_increasing template value, instances_nodup template value⟩

/-- Rows of different lengths and a row that is no array each give as many paths as they have elements. -/
example :
    (Path.mk [.item, .item]).instances
        (.array [.array [.null, .null], .string "row", .array [], .array [.null]]) =
      [⟨[.index 0, .index 0]⟩, ⟨[.index 0, .index 1]⟩, ⟨[.index 3, .index 0]⟩] := by
  decide

end Path

end Forms
