/-
This file proves that the changes of an engine are enough to show its report. Over any run of its
operations every change is handed out once and in order, and the changes together lead from a blank
display to the report.
-/

import Forms.Engine
import Forms.Proofs.Report.Display

namespace Forms

/-- The operations of an engine that change its state. -/
inductive Operation where
  | receive (feedback : Feedback)
  | validateValues (values : Json)
  /-- The live values are validated as they are at the time of the operation. -/
  | validate (live : Json)
  | takeChanges

namespace Engine

/-- The changes that an operation hands out, with the engine after it. -/
def perform (engine : Engine) : Operation → List Change × Engine
  | .receive feedback => ([], (engine.receive feedback).2)
  | .validateValues values => ([], (engine.validateValues values).2)
  | .validate live => ([], (engine.validate live).2)
  | .takeChanges => engine.takeChanges

/-- The changes that are handed out over a run, with the engine after it. -/
def run (engine : Engine) : List Operation → List Change × Engine
  | [] => ([], engine)
  | operation :: operations =>
      let (taken, next) := engine.perform operation
      let (later, last) := next.run operations
      (taken ++ later, last)

/-- The changes between the reports before and after each operation of a run. -/
def changeLog (engine : Engine) : List Operation → List Change
  | [] => []
  | operation :: operations =>
      let next := (engine.perform operation).2
      next.report.changesSince engine.report ++ next.changeLog operations

theorem run_append (engine : Engine) (earlier later : List Operation) :
    engine.run (earlier ++ later) =
      ((engine.run earlier).1 ++ ((engine.run earlier).2.run later).1,
        ((engine.run earlier).2.run later).2) := by
  induction earlier generalizing engine with
  | nil => rfl
  | cons operation earlier inductionHypothesis =>
      simp only [List.cons_append, run, inductionHypothesis, List.append_assoc]

/-- Right after a take nothing waits, and the report is as it was. -/
theorem takeChanges_takes (engine : Engine) :
    engine.takeChanges.2.takeChanges.1 = [] ∧ engine.takeChanges.2.report = engine.report :=
  ⟨rfl, rfl⟩

/-- What an operation hands out and what a take would hand out after it is what waited before and the
changes of the report. -/
theorem perform_waiting (engine : Engine) (operation : Operation) :
    (engine.perform operation).1 ++ (engine.perform operation).2.takeChanges.1 =
      engine.takeChanges.1 ++ (engine.perform operation).2.report.changesSince engine.report := by
  cases operation with
  | receive feedback => rfl
  | validateValues values => rfl
  | validate live => rfl
  | takeChanges =>
      obtain ⟨nothing, same⟩ := engine.takeChanges_takes
      rw [perform, nothing, same, Report.changesSince_self]

/-- Over a run the changes that are handed out and those that a take would hand out at the end are the
changes that waited before and the changes of the reports, in order. -/
theorem run_waiting (engine : Engine) (operations : List Operation) :
    (engine.run operations).1 ++ (engine.run operations).2.takeChanges.1 =
      engine.takeChanges.1 ++ engine.changeLog operations := by
  induction operations generalizing engine with
  | nil => simp [run, changeLog]
  | cons operation operations inductionHypothesis =>
      have later := inductionHypothesis (engine.perform operation).2
      have now := engine.perform_waiting operation
      simp only [run, changeLog, List.append_assoc]
      rw [later, ← List.append_assoc, now, List.append_assoc]

theorem applyAll_changeLog (engine : Engine) (operations : List Operation) :
    engine.report.display.applyAll (engine.changeLog operations) =
      (engine.run operations).2.report.display := by
  induction operations generalizing engine with
  | nil => rfl
  | cons operation operations inductionHypothesis =>
      rw [changeLog, Display.applyAll_append, Report.applyAll_changesSince]
      exact inductionHypothesis (engine.perform operation).2

/-- A host that starts blank and applies every change it has taken, and then the waiting ones, shows the
report of the engine. The waiting changes are those that the host would be handed now. Once it has taken
them nothing waits, and the taken changes alone show the report. The changes are those between the reports
of the run: none is lost, handed out twice or out of order. -/
theorem display_of_run (rules : Rulebook) (view : View) (source : Source) (catalog : Catalog)
    (options : ValidationOptions) (operations : List Operation) :
    let engine : Engine := { rules, view, source, catalog, options }
    let (taken, last) := engine.run operations
    let (waiting, after) := last.takeChanges
    taken ++ waiting = engine.changeLog operations ∧
      Display.blank.applyAll (taken ++ waiting) = last.report.display ∧
      engine.run (operations ++ [.takeChanges]) = (taken ++ waiting, after) ∧
      after.takeChanges.1 = [] ∧
      Display.blank.applyAll (taken ++ waiting) = after.report.display := by
  intro engine
  have log : (engine.run operations).1 ++ (engine.run operations).2.takeChanges.1 =
      engine.changeLog operations := engine.run_waiting operations
  have shown : Display.blank.applyAll (engine.changeLog operations) =
      (engine.run operations).2.report.display := engine.applyAll_changeLog operations
  have onward : engine.run (operations ++ [.takeChanges]) =
      ((engine.run operations).1 ++ (engine.run operations).2.takeChanges.1,
        (engine.run operations).2.takeChanges.2) := by
    rw [run_append]
    simp [run, perform]
  obtain ⟨nothing, same⟩ := (engine.run operations).2.takeChanges_takes
  rw [← log] at shown
  exact ⟨log, shown, onward, nothing, shown.trans (congrArg Report.display same).symm⟩

end Engine

end Forms
