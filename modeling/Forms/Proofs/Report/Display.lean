/-
This file proves that the changes between two reports are what a host has to apply: they turn a display
of the earlier report into a display of the later one.
-/

import Forms.Report
import Mathlib.Logic.Function.Basic

namespace Forms

/-- A display shows messages at some of the paths. -/
abbrev Display := Path → Option (List String)

/-- Nothing is shown before the first change. -/
def Display.blank : Display := fun _ => none

/-- The host applies one change. -/
def Display.apply (display : Display) : Change → Display
  | .shown path messages => Function.update display path (some messages)
  | .cleared path => Function.update display path none

/-- The host applies changes one after the other. -/
def Display.applyAll (display : Display) (changes : List Change) : Display :=
  changes.foldl Display.apply display

theorem Display.applyAll_append (display : Display) (first second : List Change) :
    display.applyAll (first ++ second) = (display.applyAll first).applyAll second :=
  List.foldl_append

theorem Display.applyAll_cleared (display : Display) (paths : List Path) (path : Path) :
    display.applyAll (paths.map .cleared) path = if path ∈ paths then none else display path := by
  induction paths generalizing display with
  | nil => rfl
  | cons first rest inductionHypothesis =>
      have later := inductionHypothesis (display.apply (.cleared first))
      rw [List.map_cons, applyAll, List.foldl_cons]
      rw [applyAll] at later
      rw [later]
      by_cases same : path = first <;> simp [apply, same, Function.update_of_ne]

/-- The changes that show the entries of a report. -/
def Report.showing (entries : List (Path × List Issue)) : List Change :=
  entries.map fun entry => .shown entry.1 (entry.2.map Issue.message)

theorem Display.applyAll_showing_of_not_mem (display : Display) {entries : List (Path × List Issue)}
    {path : Path} (absent : path ∉ entries.map Prod.fst) :
    display.applyAll (Report.showing entries) path = display path := by
  induction entries generalizing display with
  | nil => rfl
  | cons entry entries inductionHypothesis =>
      rw [List.map_cons, List.mem_cons, not_or] at absent
      refine (inductionHypothesis (display.apply _) absent.2).trans ?_
      exact Function.update_of_ne absent.1 _ _

theorem Display.applyAll_showing_of_mem (display : Display) {entries : List (Path × List Issue)}
    (distinct : (entries.map Prod.fst).Nodup) {entry : Path × List Issue} (member : entry ∈ entries) :
    display.applyAll (Report.showing entries) entry.1 = some (entry.2.map Issue.message) := by
  induction entries generalizing display with
  | nil => cases member
  | cons first rest inductionHypothesis =>
      obtain ⟨fresh, distinct⟩ := List.nodup_cons.mp distinct
      rcases List.mem_cons.mp member with rfl | later
      · exact (applyAll_showing_of_not_mem _ fresh).trans (Function.update_self _ _ _)
      · exact inductionHypothesis _ distinct later

namespace Report

/-- The display that shows a report. -/
def display (report : Report) : Display := fun path =>
  (report.get? path).map (List.map Issue.message)

theorem get?_eq_some_iff {report : Report} {path : Path} {issues : List Issue} :
    report.get? path = some issues ↔ (path, issues) ∈ report.toList :=
  OrderedMap.get?_eq_some_iff

theorem shownSince_distinct (report previous : Report) :
    ((report.shownSince previous).map Prod.fst).Nodup :=
  (List.filter_sublist.map Prod.fst).nodup report.entries.keys_nodup

theorem mem_shownSince {report previous : Report} {entry : Path × List Issue} :
    entry ∈ report.shownSince previous ↔
      report.get? entry.1 = some entry.2 ∧ previous.get? entry.1 ≠ some entry.2 := by
  rw [shownSince, List.mem_filter, get?_eq_some_iff, bne_iff_ne]

theorem mem_clearedSince {report previous : Report} {path : Path} :
    path ∈ report.clearedSince previous ↔
      previous.get? path ≠ none ∧ report.get? path = none := by
  rw [clearedSince, List.mem_filter, paths, OrderedMap.mem_keys_iff, OrderedMap.contains,
    OrderedMap.contains, Option.isSome_iff_ne_none, Bool.not_eq_true', Option.isSome_eq_false_iff,
    Option.isNone_iff_eq_none]
  rfl

/-- A host that has shown the earlier report shows the later one after the changes. -/
theorem applyAll_changesSince (report previous : Report) :
    previous.display.applyAll (report.changesSince previous) = report.display := by
  funext path
  have cleared := previous.display.applyAll_cleared (report.clearedSince previous) path
  change previous.display.applyAll
    ((report.clearedSince previous).map .cleared ++ showing (report.shownSince previous)) path = _
  rw [Display.applyAll_append]
  by_cases shown : path ∈ (report.shownSince previous).map Prod.fst
  · obtain ⟨entry, member, rfl⟩ := List.mem_map.mp shown
    rw [Display.applyAll_showing_of_mem _ (report.shownSince_distinct previous) member, display,
      (mem_shownSince.mp member).1, Option.map_some]
  · rw [Display.applyAll_showing_of_not_mem _ shown, cleared]
    split
    · next gone => rw [display, (mem_clearedSince.mp gone).2, Option.map_none]
    · next stays =>
        -- A path that is neither cleared nor shown has the same issues in both reports.
        have same : report.get? path = previous.get? path := by
          cases held : report.get? path with
          | none =>
              by_contra differ
              exact stays (mem_clearedSince.mpr ⟨Ne.symm differ, held⟩)
          | some issues =>
              by_contra differ
              exact shown (List.mem_map.mpr
                ⟨(path, issues), mem_shownSince.mpr ⟨held, Ne.symm differ⟩, rfl⟩)
        rw [display, display, same]

/-- Between equal reports nothing changes. -/
theorem changesSince_self (report : Report) : report.changesSince report = [] := by
  have cleared : report.clearedSince report = [] :=
    List.eq_nil_iff_forall_not_mem.mpr fun path member =>
      (mem_clearedSince.mp member).1 (mem_clearedSince.mp member).2
  have shown : report.shownSince report = [] :=
    List.eq_nil_iff_forall_not_mem.mpr fun entry member =>
      (mem_shownSince.mp member).2 (mem_shownSince.mp member).1
  rw [changesSince, cleared, shown]
  rfl

end Report

end Forms
