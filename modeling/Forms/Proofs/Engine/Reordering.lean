/-
This file proves that the order of fields is for the host alone. Engines of two forms whose schemas
differ in the order of siblings answer alike, as long as they read the same values.
-/

import Forms.Proofs.Compiler.Reordering
import Forms.Proofs.Engine.Passes

namespace Forms

namespace Engine

/-- The engine with the view of another form, and with another place to read values from. -/
def showing (engine : Engine) (view : View) (source : Source) : Engine := { engine with view, source }

variable {engine : Engine} {view : View} {source : Source}

/-- No operation changes where values are read from. -/
theorem values_perform (engine : Engine) (operation : Operation) :
    (engine.perform operation).2.values = engine.values := by
  cases operation <;> rfl

/-- An operation looks at the view only to read the live values. -/
theorem perform_showing (operation : Operation)
    (alike : ∀ live, operation = .validate live → source.read view live = engine.values live) :
    (engine.showing view source).perform operation =
        ((engine.perform operation).1, (engine.perform operation).2.showing view source) ∧
      (engine.showing view source).verdict? operation = engine.verdict? operation := by
  cases operation with
  | receive feedback => exact ⟨rfl, rfl⟩
  | validateValues values => exact ⟨rfl, rfl⟩
  | validate live =>
      have sameValues : (engine.showing view source).values live = engine.values live := alike live rfl
      have validated : (engine.showing view source).validate live =
          ((engine.validate live).1, (engine.validate live).2.showing view source) := by
        rw [validate, sameValues]
        rfl
      exact ⟨by rw [perform, validated]; rfl, by rw [verdict?, validated]; rfl⟩
  | takeChanges => exact ⟨rfl, rfl⟩

/-- Over a run an engine answers as it does with another view that it reads the same values by. -/
theorem run_showing (operations : List Operation)
    (alike : ∀ live, .validate live ∈ operations → source.read view live = engine.values live) :
    (engine.showing view source).run operations =
        ((engine.run operations).1, (engine.run operations).2.showing view source) ∧
      (engine.showing view source).verdicts operations = engine.verdicts operations := by
  induction operations generalizing engine with
  | nil => exact ⟨rfl, rfl⟩
  | cons operation operations inductionHypothesis =>
      obtain ⟨performed, verdict⟩ := perform_showing operation
        fun live same => alike live (same ▸ List.mem_cons_self)
      have alikeLater (live : Json) (later : .validate live ∈ operations) :
          source.read view live = (engine.perform operation).2.values live := by
        rw [values_perform]
        exact alike live (List.mem_cons_of_mem _ later)
      obtain ⟨ran, verdicts⟩ := inductionHypothesis alikeLater
      refine ⟨?_, ?_⟩
      · simp only [run, performed, ran]
      · rw [Engine.verdicts, verdict, performed, verdicts, Engine.verdicts]

/-- The order of fields is for the host alone. Two schemas with distinct keys of siblings that differ in
the order of siblings compile together. Their forms have one rulebook, and engines of the two forms that
read the same values return the same verdicts, show the same reports and have the same changes, whatever
the server sends. -/
theorem run_reordered (compiler : Compiler) {left right : Schema} (reordered : left.Reordered right)
    (distinct : left.DistinctKeys) :
    ((∃ form, (compiler.compile left).result = .ok form) ↔
        ∃ form, (compiler.compile right).result = .ok form) ∧
      ∀ leftForm rightForm, (compiler.compile left).result = .ok leftForm →
        (compiler.compile right).result = .ok rightForm →
          leftForm.rules = rightForm.rules ∧
            ∀ catalog options leftSource rightSource operations,
              (∀ live, .validate live ∈ operations →
                leftSource.read leftForm.view live = rightSource.read rightForm.view live) →
                let leftEngine : Engine :=
                  { rules := leftForm.rules, view := leftForm.view, source := leftSource,
                    catalog, options }
                let rightEngine : Engine :=
                  { rules := rightForm.rules, view := rightForm.view, source := rightSource,
                    catalog, options }
                leftEngine.verdicts operations = rightEngine.verdicts operations ∧
                  (leftEngine.run operations).1 = (rightEngine.run operations).1 ∧
                  (leftEngine.run operations).2.report = (rightEngine.run operations).2.report ∧
                  (leftEngine.run operations).2.pending = (rightEngine.run operations).2.pending := by
  refine ⟨Compiler.exists_compile_iff_of_reordered reordered, ?_⟩
  intro leftForm rightForm compilesLeft compilesRight
  have sameRules := Compiler.rules_eq_of_reordered reordered distinct compilesLeft compilesRight
  refine ⟨sameRules, ?_⟩
  intro catalog options leftSource rightSource operations alike leftEngine rightEngine
  have shown : rightEngine = leftEngine.showing rightForm.view rightSource := by
    simp only [rightEngine, leftEngine, ← sameRules]
    rfl
  have alikeShown (live : Json) (member : .validate live ∈ operations) :
      rightSource.read rightForm.view live = leftEngine.values live := (alike live member).symm
  obtain ⟨ran, verdicts⟩ := run_showing operations alikeShown
  rw [shown, ran, verdicts]
  exact ⟨rfl, rfl, rfl, rfl⟩

end Engine

/-- A stop of a journey. -/
def journeyStop : Schema where
  kind := .object
  children := [("place", requiredText), ("guide", requiredText)]

/-- A journey has stops between its ends. -/
def journey : Schema where
  kind := .object
  children := [("from", requiredText), ("to", requiredText), ("stops", .arrayOf journeyStop)]

/-- The same journey with the stops first, and with the guide of a stop before the place. -/
def reorderedJourney : Schema where
  kind := .object
  children := [
    ("stops", .arrayOf {
      kind := .object
      children := [("guide", requiredText), ("place", requiredText)] }),
    ("from", requiredText), ("to", requiredText)]

theorem journey_reordered : journey.Reordered reorderedJourney := by
  have stop : journeyStop.Reordered { journeyStop with
      children := [("guide", requiredText), ("place", requiredText)] } :=
    .children journeyStop (.swap _ _ _)
  have stops : journey.Reordered _ :=
    .child journey [("from", requiredText), ("to", requiredText)] [] "stops"
      (.item (.arrayOf journeyStop) stop)
  exact stops.trans (.children _ (.trans (.cons _ (.swap _ _ _)) (.swap _ _ _)))

theorem journey_distinctKeys : journey.DistinctKeys := by decide

def journeyForm : Compiled := ((contactsCompiler.compile journey).result.toOption).get (by decide)

def reorderedJourneyForm : Compiled :=
  ((contactsCompiler.compile reorderedJourney).result.toOption).get (by decide)

/-- The first stop has no guide, and the journey does not end. -/
def journeyValues : Json :=
  .object [("from", .string "here"), ("stops", .array [.object [("place", .string "there")]])]

/-- The server does not know the start. Later the values are validated. -/
def journeyOperations : List Operation :=
  [.receive (Feedback.ofNotices [("from", .text "unknown")]), .takeChanges, .validate journeyValues]

/-- The two forms list their fields in different orders, and their engines show the same report. -/
theorem run_reorderedJourney :
    journey.Reordered reorderedJourney ∧ journey.DistinctKeys ∧
      (contactsCompiler.compile journey).result = .ok journeyForm ∧
      (contactsCompiler.compile reorderedJourney).result = .ok reorderedJourneyForm ∧
      journeyForm.view.nodes.map View.path ≠ reorderedJourneyForm.view.nodes.map View.path ∧
      let engine : Engine :=
        { rules := journeyForm.rules, view := journeyForm.view, source := .live }
      let reordered : Engine :=
        { rules := reorderedJourneyForm.rules, view := reorderedJourneyForm.view, source := .live }
      (engine.run journeyOperations).2.report = (reordered.run journeyOperations).2.report ∧
        (reordered.run journeyOperations).2.report.paths =
          [⟨[.key "stops", .index 0, .key "guide"]⟩, ⟨[.key "to"]⟩] := by
  have compiles : (contactsCompiler.compile journey).result = .ok journeyForm := rfl
  have compilesReordered : (contactsCompiler.compile reorderedJourney).result =
      .ok reorderedJourneyForm := rfl
  obtain ⟨_, together⟩ := Engine.run_reordered contactsCompiler journey_reordered
    journey_distinctKeys
  obtain ⟨_, alike⟩ := together journeyForm reorderedJourneyForm compiles compilesReordered
  have sameValues (live : Json) (member : .validate live ∈ journeyOperations) :
      Source.live.read journeyForm.view live = Source.live.read reorderedJourneyForm.view live := by
    obtain rfl : live = journeyValues := by simpa [journeyOperations] using member
    rfl
  obtain ⟨_, _, sameReport, _⟩ := alike .standard .standard .live .live journeyOperations sameValues
  exact ⟨journey_reordered, journey_distinctKeys, compiles, compilesReordered, by decide, sameReport,
    by decide +kernel⟩

end Forms
