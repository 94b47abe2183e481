/-
This file proves what the part of a report below one path shows. A report is determined by the issues
that it shows at every path.
-/

import Forms.Proofs.Path.Prefixes
import Forms.Proofs.Report.Messages

namespace Forms

namespace Report

/-- The report of the paths that start with a path. -/
def below (report : Report) (base : Path) : Report where
  entries := {
    entries := report.toList.filter (·.1.startsWith base)
    increasing := report.entries.increasing.filter _ }
  inhabited entry member := report.inhabited entry (List.mem_of_mem_filter member)

theorem get?_below (report : Report) (base path : Path) :
    (report.below base).get? path = if path.startsWith base then report.get? path else none := by
  refine Option.ext fun issues => ?_
  rw [get?, OrderedMap.get?_eq_some_iff]
  split
  · next starts =>
      rw [get?, OrderedMap.get?_eq_some_iff]
      simp [below, toList, starts]
  · next differs => simp [below, differs]

/-- Below the path the issues stay, and elsewhere there are none. -/
theorem issues_below (report : Report) (base path : Path) :
    (report.below base).issues path = if path.startsWith base then report.issues path else [] := by
  rw [issues, get?_below, issues]
  split <;> rfl

/-- Reports that show the same issues at every path are equal. -/
theorem eq_of_issues_eq {left right : Report} (same : ∀ path, left.issues path = right.issues path) :
    left = right := by
  have found (report : Report) (path : Path) :
      report.get? path = if report.issues path = [] then none else some (report.issues path) := by
    cases held : report.get? path with
    | none => simp [issues, held]
    | some issues =>
        have inhabited : issues ≠ [] := report.inhabited _ (OrderedMap.get?_eq_some_iff.mp held)
        simp [Report.issues, held, inhabited]
  have sameEntries : left.entries = right.entries :=
    OrderedMap.eq_of_get?_eq fun path => by
      change left.get? path = right.get? path
      rw [found, found, same]
  cases left
  cases right
  cases sameEntries
  rfl

/-- The issues that a path shows come from the issues that the pass has for it. -/
theorem issues_ofIssues_congr {deduplicate : Bool} {left right : List (Path × Issue)} {path : Path}
    (same : issuesAt path left = issuesAt path right) :
    (ofIssues deduplicate left).issues path = (ofIssues deduplicate right).issues path := by
  rw [ofIssues, ofIssues, issues_pushAll, issues_pushAll, same]

end Report

end Forms
