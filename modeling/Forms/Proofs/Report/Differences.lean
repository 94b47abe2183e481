/-
This file proves which changes lead from one report to another. There is one change for every path at
which the reports differ, and no other one. Fields are cleared before others are shown, in the order of
their paths.
-/

import Forms.Proofs.Report.Display
import Forms.Proofs.Report.Restriction

namespace Forms

namespace Change

/-- The field that the change is about. -/
def path : Change → Path
  | .shown path _ => path
  | .cleared path => path

/-- The order of changes. Two changes of one kind have the order of their paths. -/
def Precedes : Change → Change → Prop
  | .cleared first, .cleared second => compare first second = .lt
  | .cleared _, .shown _ _ => True
  | .shown _ _, .cleared _ => False
  | .shown first _, .shown second _ => compare first second = .lt

end Change

namespace Report

variable {report previous : Report} {path : Path}

theorem get?_eq_none_iff : report.get? path = none ↔ path ∉ report.paths := by
  rw [paths, OrderedMap.mem_keys_iff, OrderedMap.contains, Bool.not_eq_true,
    Option.isSome_eq_false_iff, Option.isNone_iff_eq_none, get?]

/-- A path with an entry has the issues of the entry. -/
theorem get?_eq_some_iff_issues {issues : List Issue} :
    report.get? path = some issues ↔ path ∈ report.paths ∧ report.issues path = issues := by
  rw [Report.issues]
  cases held : report.get? path with
  | none => simp [get?_eq_none_iff.mp held]
  | some found =>
      have present : path ∈ report.paths := by
        by_contra absent
        rw [get?_eq_none_iff.mpr absent] at held
        cases held
      simp [present]

theorem cleared_mem_changesSince :
    .cleared path ∈ report.changesSince previous ↔ path ∈ previous.paths ∧ path ∉ report.paths := by
  have listed : .cleared path ∈ report.changesSince previous ↔ path ∈ report.clearedSince previous := by
    simp [changesSince]
  rw [listed, mem_clearedSince, ne_eq, get?_eq_none_iff, not_not, get?_eq_none_iff]

theorem shown_mem_changesSince {messages : List String} :
    .shown path messages ∈ report.changesSince previous ↔
      path ∈ report.paths ∧ report.issues path ≠ previous.issues path ∧
        messages = report.messages path := by
  have listed : .shown path messages ∈ report.changesSince previous ↔
      ∃ issues, (path, issues) ∈ report.shownSince previous ∧ issues.map Issue.message = messages := by
    simp [changesSince]
  have entry (issues : List Issue) : (path, issues) ∈ report.shownSince previous ↔
      path ∈ report.paths ∧ report.issues path = issues ∧ issues ≠ previous.issues path := by
    simp only [mem_shownSince, get?_eq_some_iff_issues, ne_eq, and_assoc]
    refine and_congr_right fun present => and_congr_right fun held => not_congr ?_
    -- The issues of an entry are not empty, so only an entry can have the same ones.
    have inhabited : issues ≠ [] := held ▸ mem_paths_iff.mp present
    refine ⟨fun same => same.2.symm, fun same => ⟨?_, same.symm⟩⟩
    exact mem_paths_iff.mpr (same ▸ inhabited)
  rw [listed]
  constructor
  · rintro ⟨issues, member, rfl⟩
    obtain ⟨present, rfl, differ⟩ := (entry issues).mp member
    exact ⟨present, differ, rfl⟩
  · rintro ⟨present, differ, rfl⟩
    exact ⟨report.issues path, (entry _).mpr ⟨present, rfl, differ⟩, rfl⟩

/-- The changes are listed in their order. -/
theorem pairwise_changesSince (report previous : Report) :
    (report.changesSince previous).Pairwise Change.Precedes := by
  have cleared : (report.clearedSince previous).Pairwise fun first second => compare first second = .lt :=
    (List.pairwise_map.mpr previous.entries.increasing).filter _
  have shown : (report.shownSince previous).Pairwise fun first second =>
      compare first.1 second.1 = .lt :=
    report.entries.increasing.filter _
  rw [changesSince, List.pairwise_append]
  refine ⟨List.pairwise_map.mpr cleared, List.pairwise_map.mpr shown, ?_⟩
  intro first firstListed second secondListed
  obtain ⟨_, _, rfl⟩ := List.mem_map.mp firstListed
  obtain ⟨_, _, rfl⟩ := List.mem_map.mp secondListed
  trivial

/-- No field has two changes. -/
theorem nodup_path_changesSince (report previous : Report) :
    ((report.changesSince previous).map Change.path).Nodup := by
  have apart {first second : Path} (below : compare first second = .lt) : first ≠ second := by
    rintro rfl
    rw [Std.ReflOrd.compare_self] at below
    cases below
  refine List.pairwise_map.mpr ((report.pairwise_changesSince previous).imp_of_mem ?_)
  intro first second firstListed secondListed precedes
  cases first with
  | cleared firstPath =>
      cases second with
      | cleared secondPath => exact apart precedes
      | shown secondPath messages =>
          rintro rfl
          exact (cleared_mem_changesSince.mp firstListed).2 (shown_mem_changesSince.mp secondListed).1
  | shown firstPath messages =>
      cases second with
      | cleared secondPath => exact precedes.elim
      | shown secondPath later => exact apart precedes

/-- When nothing changes the reports show the same issues at every path. -/
theorem eq_of_changesSince_eq_nil (unchanged : report.changesSince previous = []) :
    report = previous := by
  apply eq_of_issues_eq
  intro path
  by_contra differ
  by_cases present : path ∈ report.paths
  · have shown : .shown path (report.messages path) ∈ report.changesSince previous :=
      shown_mem_changesSince.mpr ⟨present, differ, rfl⟩
    rw [unchanged] at shown
    cases shown
  · have silent : report.issues path = [] := not_not.mp fun held => present (mem_paths_iff.mpr held)
    have before : path ∈ previous.paths := mem_paths_iff.mpr fun same => differ (silent.trans same.symm)
    have cleared : .cleared path ∈ report.changesSince previous :=
      cleared_mem_changesSince.mpr ⟨before, present⟩
    rw [unchanged] at cleared
    cases cleared

/-- The changes from one report to another are minimal. No field has two changes. The cleared fields are
those that have no issues any more, and the shown fields are those whose issues differ, also when they
differ by provenance only. The list has the order of the changes, and it is empty exactly between equal
reports. -/
theorem changesSince_exact (report previous : Report) :
    let changes := report.changesSince previous
    (changes.map Change.path).Nodup ∧
      (∀ path, .cleared path ∈ changes ↔ path ∈ previous.paths ∧ path ∉ report.paths) ∧
      (∀ path messages, .shown path messages ∈ changes ↔
        path ∈ report.paths ∧ report.issues path ≠ previous.issues path ∧
          messages = report.messages path) ∧
      changes.Pairwise Change.Precedes ∧
      (changes = [] ↔ report = previous) := by
  intro changes
  refine ⟨report.nodup_path_changesSince previous, fun _ => cleared_mem_changesSince,
    fun _ _ => shown_mem_changesSince, report.pairwise_changesSince previous,
    eq_of_changesSince_eq_nil, ?_⟩
  rintro rfl
  exact changesSince_self report

/-- A message that the client finds where the server had found it is shown again. -/
example :
    let before := ofIssues true [(⟨[.key "b"]⟩, ⟨"taken", .server⟩), (⟨[.key "c"]⟩, ⟨"old", .server⟩)]
    let after := ofIssues true [(⟨[.key "b"]⟩, ⟨"taken", .client⟩), (⟨[.key "a"]⟩, ⟨"new", .client⟩)]
    after.changesSince before = [.cleared ⟨[.key "c"]⟩, .shown ⟨[.key "a"]⟩ ["new"],
      .shown ⟨[.key "b"]⟩ ["taken"]] := by
  decide

end Report

end Forms
