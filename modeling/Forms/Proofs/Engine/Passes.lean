/-
This file proves what an engine can show after any run of its operations. The report depends on the last
pass alone: a fresh engine that performs only this pass shows the same.
-/

import Forms.Proofs.Engine.Changes
import Forms.Proofs.Engine.Reception

namespace Forms

/-- The provenance of the issues that an operation reports. Taking changes reports nothing. -/
def Operation.provenance? : Operation → Option Provenance
  | .receive _ => some .server
  | .validateValues _ | .validate _ => some .client
  | .takeChanges => none

/-- A pass computes a new report. -/
def Operation.isPass (operation : Operation) : Bool := operation.provenance?.isSome

/-- The last pass among the operations of a run. -/
def lastPass? (operations : List Operation) : Option Operation :=
  operations.reverse.find? Operation.isPass

/-- What the reports of an engine keep to. Issues lie at fields of the rulebook, come from one kind of
pass, and do not repeat a message when the options forbid it. -/
structure Report.IsSound (report : Report) (rules : Rulebook) (deduplicate : Bool)
    (provenance? : Option Provenance) : Prop where
  inhabited : ∀ path ∈ report.paths, report.issues path ≠ []
  fields : ∀ path ∈ report.paths, path.isTemplate = false ∧ rules.accepts path = true
  provenance : ∀ path, ∀ issue ∈ report.issues path, some issue.provenance = provenance?
  distinct : deduplicate = true → ∀ path, (report.messages path).Nodup

namespace Report

theorem mem_append_of_mem {deduplicate : Bool} {issue found : Issue} {issues : List Issue}
    (member : found ∈ append deduplicate issue issues) : found ∈ issues ∨ found = issue := by
  unfold append at member
  split at member
  · exact .inl member
  · simpa using member

/-- An issue that may not repeat a message joins only when its message is new. -/
theorem nodup_append {issue : Issue} {issues : List Issue}
    (distinct : (issues.map Issue.message).Nodup) :
    ((append true issue issues).map Issue.message).Nodup := by
  unfold append
  split
  · exact distinct
  · next fresh =>
      simp only [Bool.true_and, List.any_eq_true, beq_iff_eq, not_exists, not_and] at fresh
      rw [List.map_append]
      refine List.nodup_append.mpr ⟨distinct, by simp, ?_⟩
      rintro _ member _ added rfl
      obtain ⟨other, listed, same⟩ := List.mem_map.mp member
      rw [List.map_singleton, List.mem_singleton] at added
      exact fresh other listed (same.trans added)

/-- Every issue of a report has joined it at its path. -/
theorem mem_of_mem_issues_ofIssues {deduplicate : Bool} {issues : List (Path × Issue)} {path : Path}
    {issue : Issue} (member : issue ∈ (ofIssues deduplicate issues).issues path) :
    (path, issue) ∈ issues := by
  have joined (shown later : List Issue)
      (member : issue ∈ later.foldl (fun shown issue => append deduplicate issue shown) shown) :
      issue ∈ shown ∨ issue ∈ later := by
    induction later generalizing shown with
    | nil => exact .inl member
    | cons first later inductionHypothesis =>
        rcases inductionHypothesis _ member with before | after
        · rcases mem_append_of_mem before with earlier | rfl
          · exact .inl earlier
          · exact .inr List.mem_cons_self
        · exact .inr (List.mem_cons_of_mem _ after)
  rw [ofIssues, issues_pushAll] at member
  rcases joined _ _ member with before | listed
  · cases before
  · obtain ⟨pair, present, same⟩ := List.mem_filterMap.mp listed
    split at same
    · next here =>
        cases same
        rw [← here]
        exact present
    · cases same

/-- No message of a path is repeated when repeated messages are left out. -/
theorem nodup_messages_ofIssues (issues : List (Path × Issue)) (path : Path) :
    ((ofIssues true issues).messages path).Nodup := by
  have kept (shown later : List Issue) (distinct : (shown.map Issue.message).Nodup) :
      ((later.foldl (fun shown issue => append true issue shown) shown).map Issue.message).Nodup := by
    induction later generalizing shown with
    | nil => exact distinct
    | cons first later inductionHypothesis =>
        exact inductionHypothesis _ (nodup_append distinct)
  rw [messages, ofIssues, issues_pushAll]
  exact kept _ _ .nil

theorem isSound_empty (rules : Rulebook) (deduplicate : Bool) (provenance? : Option Provenance) :
    empty.IsSound rules deduplicate provenance? where
  inhabited := fun _ member => nomatch member
  fields := fun _ member => nomatch member
  provenance := fun _ _ member => nomatch member
  distinct := fun _ _ => .nil

end Report

namespace Rulebook

/-- A book accepts the instances of its paths. -/
theorem accepts_of_isInstanceOf {book : Rulebook} {entry : Path × List Rule} {path : Path}
    (member : entry ∈ book.toList) (matched : path.isInstanceOf entry.1 = true) :
    book.accepts path = true := by
  unfold accepts resolve?
  cases exact : book.get? path with
  | some rules => rfl
  | none =>
      have template : entry.1.isTemplate = true := by
        by_contra concrete
        have same := Path.eq_of_isInstanceOf (Bool.eq_false_iff.mpr concrete) matched
        rw [same, get?_eq_some_iff.mpr member] at exact
        cases exact
      refine List.find?_isSome.mpr ⟨entry, member, ?_⟩
      rw [template, matched]
      rfl

end Rulebook

namespace Engine

variable {engine : Engine} {operation : Operation}

/-- The engine before any operation. -/
def fresh (engine : Engine) : Engine := { engine with report := .empty, pending := [] }

/-- The issues that a pass computes. -/
def passIssues? (engine : Engine) : Operation → Option (List (Path × Issue))
  | .receive feedback => some (engine.feedbackIssues feedback)
  | .validateValues values => some (engine.valueIssues values)
  | .validate live => some (engine.valueIssues (engine.values live))
  | .takeChanges => none

/-- The verdict that a pass returns. -/
def verdict? (engine : Engine) : Operation → Option Bool
  | .receive feedback => some (engine.receive feedback).1
  | .validateValues values => some (engine.validateValues values).1
  | .validate live => some (engine.validate live).1
  | .takeChanges => none

/-- The verdicts that the passes of a run return, in order. -/
def verdicts (engine : Engine) : List Operation → List Bool
  | [] => []
  | operation :: operations =>
      (engine.verdict? operation).toList ++ (engine.perform operation).2.verdicts operations

/-- The issues of a pass are those of a fresh engine: no earlier report has a part in them. -/
theorem passIssues?_fresh (engine : Engine) (operation : Operation) :
    engine.fresh.passIssues? operation = engine.passIssues? operation := by
  cases operation <;> rfl

/-- An operation with issues settles them, and its verdict says whether the new report has any. -/
theorem perform_of_passIssues? {issues : List (Path × Issue)}
    (computed : engine.passIssues? operation = some issues) :
    (engine.perform operation).2 = engine.settle issues ∧
      engine.verdict? operation = some (engine.settle issues).hasErrors := by
  cases operation <;> cases computed <;> exact ⟨rfl, rfl⟩

/-- An operation without issues is no pass and leaves the report as it is. -/
theorem perform_of_passIssues?_eq_none (none : engine.passIssues? operation = none) :
    (engine.perform operation).2.report = engine.report ∧ engine.verdict? operation = .none ∧
      operation.isPass = false := by
  cases operation <;> cases none
  exact ⟨rfl, rfl, rfl⟩

theorem isPass_of_passIssues? {issues : List (Path × Issue)}
    (computed : engine.passIssues? operation = some issues) : operation.isPass = true := by
  cases operation <;> cases computed <;> rfl

/-- Operations change the report and the waiting changes only. -/
theorem fresh_perform (engine : Engine) (operation : Operation) :
    (engine.perform operation).2.fresh = engine.fresh := by
  cases operation <;> rfl

/-- The issues of feedback belong to fields and come from the server. -/
theorem mem_feedbackIssues {feedback : Feedback} {path : Path} {issue : Issue}
    (member : (path, issue) ∈ engine.feedbackIssues feedback) :
    path.isTemplate = false ∧ engine.rules.accepts path = true ∧ issue.provenance = .server := by
  rw [feedbackIssues_eq] at member
  obtain ⟨entry, _, inside⟩ := List.mem_flatMap.mp member
  unfold entryIssues at inside
  split at inside
  · next named =>
      obtain ⟨notice, _, same⟩ := List.mem_map.mp inside
      cases same
      obtain ⟨_, concrete, accepted⟩ := field_eq_ok_iff.mp named
      exact ⟨concrete, accepted, rfl⟩
  · cases inside

/-- The issues of values belong to fields and come from this side. -/
theorem mem_valueIssues {values : Json} {path : Path} {issue : Issue}
    (member : (path, issue) ∈ engine.valueIssues values) :
    path.isTemplate = false ∧ engine.rules.accepts path = true ∧ issue.provenance = .client := by
  obtain ⟨entry, listed, inside⟩ := List.mem_flatMap.mp member
  obtain ⟨field, instanced, found⟩ := List.mem_flatMap.mp inside
  obtain ⟨message, _, same⟩ := List.mem_map.mp found
  cases same
  obtain ⟨concrete, matched, _⟩ := Path.mem_instances.mp instanced
  exact ⟨concrete, Rulebook.accepts_of_isInstanceOf listed matched, rfl⟩

/-- The issues of a pass belong to fields and have the provenance of the pass. -/
theorem mem_passIssues? {issues : List (Path × Issue)} {path : Path} {issue : Issue}
    (computed : engine.passIssues? operation = some issues) (member : (path, issue) ∈ issues) :
    path.isTemplate = false ∧ engine.rules.accepts path = true ∧
      some issue.provenance = operation.provenance? := by
  cases operation with
  | receive feedback =>
      cases computed
      obtain ⟨concrete, accepted, server⟩ := mem_feedbackIssues member
      exact ⟨concrete, accepted, congrArg some server⟩
  | validateValues values =>
      cases computed
      obtain ⟨concrete, accepted, client⟩ := mem_valueIssues member
      exact ⟨concrete, accepted, congrArg some client⟩
  | validate live =>
      cases computed
      obtain ⟨concrete, accepted, client⟩ := mem_valueIssues member
      exact ⟨concrete, accepted, congrArg some client⟩
  | takeChanges => cases computed

/-- The report of one pass is sound, whatever the engine showed before. -/
theorem isSound_settle {issues : List (Path × Issue)}
    (computed : engine.passIssues? operation = some issues) :
    (engine.settle issues).report.IsSound engine.rules engine.options.deduplicate
      operation.provenance? where
  inhabited := fun path => Report.mem_paths_iff.mp
  fields := fun path present => by
    obtain ⟨issue, member⟩ := List.exists_mem_of_ne_nil _ (Report.mem_paths_iff.mp present)
    obtain ⟨concrete, accepted, _⟩ :=
      mem_passIssues? computed (Report.mem_of_mem_issues_ofIssues member)
    exact ⟨concrete, accepted⟩
  provenance := fun path issue member =>
    (mem_passIssues? computed (Report.mem_of_mem_issues_ofIssues member)).2.2
  distinct := fun deduplicate path => by
    change ((Report.ofIssues engine.options.deduplicate issues).messages path).Nodup
    rw [deduplicate]
    exact Report.nodup_messages_ofIssues issues path

theorem run_concat (engine : Engine) (operations : List Operation) (operation : Operation) :
    (engine.run (operations ++ [operation])).2 =
      ((engine.run operations).2.perform operation).2 := by
  rw [run_append]
  rfl

theorem verdicts_concat (engine : Engine) (operations : List Operation) (operation : Operation) :
    engine.verdicts (operations ++ [operation]) =
      engine.verdicts operations ++ ((engine.run operations).2.verdict? operation).toList := by
  induction operations generalizing engine with
  | nil => simp [verdicts, run]
  | cons first operations inductionHypothesis =>
      have later := inductionHypothesis (engine.perform first).2
      rw [List.cons_append, verdicts, later, verdicts, List.append_assoc]
      rfl

theorem lastPass?_concat (operations : List Operation) (operation : Operation) :
    lastPass? (operations ++ [operation]) =
      if operation.isPass then some operation else lastPass? operations := by
  rw [lastPass?, List.reverse_append, List.reverse_singleton, List.singleton_append, List.find?_cons]
  cases operation.isPass <;> rfl

theorem fresh_run (engine : Engine) (operations : List Operation) :
    (engine.run operations).2.fresh = engine.fresh := by
  induction operations generalizing engine with
  | nil => rfl
  | cons operation operations inductionHypothesis =>
      exact (inductionHypothesis (engine.perform operation).2).trans (engine.fresh_perform operation)

/-- The report after a run is the one that a fresh engine reaches by the last pass alone. -/
theorem report_run (engine : Engine) (operations : List Operation) :
    (engine.run operations).2.report =
      match lastPass? operations with
      | none => engine.report
      | some pass => (engine.fresh.perform pass).2.report := by
  induction operations using List.reverseRecOn with
  | nil => rfl
  | append_singleton operations operation inductionHypothesis =>
      rw [run_concat, lastPass?_concat]
      cases computed : (engine.run operations).2.passIssues? operation with
      | none =>
          obtain ⟨unchanged, _, noPass⟩ := perform_of_passIssues?_eq_none computed
          rw [unchanged, noPass]
          exact inductionHypothesis
      | some issues =>
          -- The issues depend on what the run does not change.
          have alone : engine.fresh.passIssues? operation = some issues := by
            rw [← fresh_run engine operations, passIssues?_fresh, computed]
          have options : (engine.run operations).2.fresh.options = engine.fresh.options :=
            congrArg Engine.options (engine.fresh_run operations)
          rw [isPass_of_passIssues? computed, if_pos rfl, (perform_of_passIssues? computed).1]
          change _ = (engine.fresh.perform operation).2.report
          rw [(perform_of_passIssues? alone).1]
          exact congrArg (fun options => Report.ofIssues options.deduplicate issues) options

/-- An engine has errors when the last pass of a run said so. Before any pass it is as it was. -/
theorem hasErrors_run (engine : Engine) (operations : List Operation) :
    (engine.run operations).2.hasErrors =
      (engine.verdicts operations).getLast?.getD engine.hasErrors := by
  induction operations using List.reverseRecOn with
  | nil => rfl
  | append_singleton operations operation inductionHypothesis =>
      rw [run_concat, verdicts_concat]
      cases computed : (engine.run operations).2.passIssues? operation with
      | none =>
          obtain ⟨unchanged, silent, _⟩ := perform_of_passIssues?_eq_none computed
          rw [silent, Option.toList_none, List.append_nil, ← inductionHypothesis, hasErrors, unchanged]
          rfl
      | some issues =>
          obtain ⟨settled, verdict⟩ := perform_of_passIssues? computed
          rw [settled, verdict, Option.toList_some, List.getLast?_concat, Option.getD_some]

/-- After any run of a new engine the report is sound for the last pass, the engine has errors when the
last verdict said so, and a new engine that performs only the last pass shows the same report. -/
theorem report_of_run (rules : Rulebook) (view : View) (source : Source) (catalog : Catalog)
    (options : ValidationOptions) (operations : List Operation) :
    let engine : Engine := { rules, view, source, catalog, options }
    let last := (engine.run operations).2
    last.report.IsSound rules options.deduplicate
        ((lastPass? operations).bind Operation.provenance?) ∧
      last.hasErrors = (engine.verdicts operations).getLast?.getD false ∧
      last.report =
        match lastPass? operations with
        | none => .empty
        | some pass => (engine.perform pass).2.report := by
  intro engine last
  have sameReport : last.report =
      match lastPass? operations with
      | none => .empty
      | some pass => (engine.perform pass).2.report := engine.report_run operations
  refine ⟨?_, engine.hasErrors_run operations, sameReport⟩
  cases found : lastPass? operations with
  | none =>
      rw [found] at sameReport
      rw [sameReport]
      exact Report.isSound_empty _ _ _
  | some pass =>
      rw [found] at sameReport
      have isPass : pass.isPass = true := List.find?_some found
      cases computed : engine.passIssues? pass with
      | none =>
          rw [(perform_of_passIssues?_eq_none computed).2.2] at isPass
          cases isPass
      | some issues =>
          rw [sameReport]
          change (engine.perform pass).2.report.IsSound _ _ _
          rw [(perform_of_passIssues? computed).1]
          exact isSound_settle computed

end Engine

/-- The message of the server is gone after the values are validated, and what is missing is shown. -/
example :
    let feedback := Feedback.ofNotices [("[0].phones[7]", .text "unknown")]
    let (_, last) := contactsEngine.run [
      .receive feedback, .takeChanges, .validateValues namelessContact]
    last.report.paths = [⟨[.key "owner"]⟩, ⟨[.index 0, .key "name"]⟩] ∧ last.pending.length = 3 := by
  decide +kernel

end Forms
