/-
This file proves what a report holds after the issues of one pass have joined: every path has its own
issues in order, and the first ones only where repeated messages are left out.
-/

import Forms.Proofs.Repetitions
import Forms.Report

namespace Forms

/-- The messages that a field shows. Of equal messages the first one stays when repeated messages are
left out. -/
def shownMessages (deduplicate : Bool) (messages : List String) : List String :=
  if deduplicate then messages.eraseDups else messages

theorem shownMessages_ne_nil {deduplicate : Bool} {messages : List String} :
    shownMessages deduplicate messages ≠ [] ↔ messages ≠ [] := by
  cases messages with
  | nil => simp [shownMessages]
  | cons message messages => cases deduplicate <;> simp [shownMessages, List.eraseDups_cons]

/-- Messages that a field shows are not shortened again. -/
theorem shownMessages_idempotent (deduplicate : Bool) (messages : List String) :
    shownMessages deduplicate (shownMessages deduplicate messages) =
      shownMessages deduplicate messages := by
  cases deduplicate with
  | false => rfl
  | true => exact eraseDups_of_nodup (nodup_eraseDups messages)

namespace Report

/-- The issues of one path among the issues of a pass. -/
def issuesAt (path : Path) (issues : List (Path × Issue)) : List Issue :=
  issues.filterMap fun pair => if pair.1 = path then some pair.2 else none

/-- Issues that all belong to one path. -/
theorem issuesAt_map (path other : Path) (provenance : Provenance) (messages : List String) :
    issuesAt path (messages.map fun message => (other, ⟨message, provenance⟩)) =
      if other = path then messages.map (Issue.mk · provenance) else [] := by
  rw [issuesAt, List.filterMap_map, Function.comp_def]
  by_cases same : other = path <;> simp [same]

section Sources

variable {α : Type} {sources : List α} {issuesOf : α → List (Path × Issue)} {path : Path}

theorem issuesAt_flatMap :
    issuesAt path (sources.flatMap issuesOf) =
      sources.flatMap fun source => issuesAt path (issuesOf source) :=
  List.filterMap_flatMap

/-- When only one source of issues has issues of a path, they are all that the path gets. -/
theorem issuesAt_flatMap_of_mem (distinct : sources.Nodup) {source : α} (member : source ∈ sources)
    (silent : ∀ other ∈ sources, other ≠ source → issuesAt path (issuesOf other) = []) :
    issuesAt path (sources.flatMap issuesOf) = issuesAt path (issuesOf source) := by
  rw [issuesAt_flatMap]
  induction sources with
  | nil => cases member
  | cons first rest inductionHypothesis =>
      obtain ⟨fresh, distinct⟩ := List.nodup_cons.mp distinct
      obtain ⟨silentFirst, silentRest⟩ := List.forall_mem_cons.mp silent
      rw [List.flatMap_cons]
      rcases List.mem_cons.mp member with rfl | later
      · have nothing : rest.flatMap (fun other => issuesAt path (issuesOf other)) = [] :=
          List.flatMap_eq_nil_iff.mpr fun other listed =>
            silentRest other listed fun same => fresh (same ▸ listed)
        rw [nothing, List.append_nil]
      · rw [silentFirst fun same => fresh (same ▸ later), List.nil_append]
        exact inductionHypothesis distinct later silentRest

end Sources

theorem issues_pushAll (report : Report) (deduplicate : Bool) (issues : List (Path × Issue))
    (path : Path) :
    (report.pushAll deduplicate issues).issues path =
      (issuesAt path issues).foldl (fun shown issue => append deduplicate issue shown)
        (report.issues path) := by
  induction issues generalizing report with
  | nil => rfl
  | cons pair issues inductionHypothesis =>
      have later := inductionHypothesis (report.push deduplicate pair.1 pair.2)
      rw [issues_push] at later
      by_cases same : pair.1 = path
      · subst same
        simpa [issuesAt, pushAll] using later
      · simpa [issuesAt, pushAll, same, Ne.symm same] using later

/-- Issues of one provenance show the messages of their path. -/
theorem foldl_append_eq (deduplicate : Bool) (provenance : Provenance) (messages : List String) :
    (messages.map (Issue.mk · provenance)).foldl
        (fun shown issue => append deduplicate issue shown) [] =
      (shownMessages deduplicate messages).map (Issue.mk · provenance) := by
  induction messages using List.reverseRecOn with
  | nil => cases deduplicate <;> rfl
  | append_singleton messages last inductionHypothesis =>
      rw [List.map_append, List.foldl_append, inductionHypothesis]
      cases deduplicate with
      | false => simp [shownMessages, append]
      | true =>
          by_cases repeated : last ∈ messages <;>
            simp [shownMessages, append, eraseDups_concat, repeated]

/-- The report of a pass shows at every path the messages that the pass has for it. -/
theorem issues_ofIssues {deduplicate : Bool} {issues : List (Path × Issue)} {path : Path}
    {provenance : Provenance} {messages : List String}
    (found : issuesAt path issues = messages.map (Issue.mk · provenance)) :
    (ofIssues deduplicate issues).issues path =
      (shownMessages deduplicate messages).map (Issue.mk · provenance) := by
  rw [ofIssues, issues_pushAll, found]
  exact foldl_append_eq deduplicate provenance messages

theorem issues_ofIssues_eq_nil (deduplicate : Bool) {issues : List (Path × Issue)} {path : Path}
    (silent : issuesAt path issues = []) : (ofIssues deduplicate issues).issues path = [] := by
  rw [ofIssues, issues_pushAll, silent]
  rfl

/-- A path has an entry exactly when it has issues. -/
theorem mem_paths_iff {report : Report} {path : Path} :
    path ∈ report.paths ↔ report.issues path ≠ [] := by
  rw [paths, OrderedMap.mem_keys_iff, OrderedMap.contains, issues, get?]
  cases found : report.entries.get? path with
  | none => simp
  | some held =>
      have inhabited := report.inhabited _ (OrderedMap.get?_eq_some_iff.mp found)
      simpa using inhabited

theorem isEmpty_eq_false_iff {report : Report} :
    report.isEmpty = false ↔ ∃ path, report.issues path ≠ [] := by
  simp only [← mem_paths_iff, isEmpty, paths, OrderedMap.keys, OrderedMap.isEmpty]
  cases report.entries.entries with
  | nil => simp
  | cons entry rest => simp

end Report

end Forms
