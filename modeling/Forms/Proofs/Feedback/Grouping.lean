/-
This file proves how feedback groups notices by their paths. Notices that come group by group are kept
as these groups, and notices that come mixed are sorted into them.
-/

import Forms.Feedback
import Forms.Proofs.Repetitions

namespace Forms

namespace Feedback

/-- The notices of a group belong to the path of the group. -/
def groupNotices (group : String × List Notice) : List (String × Notice) :=
  group.2.map fun notice => (group.1, notice)

/-- Notices join entries one after the other. -/
def addAllTo (entries : List (String × List Notice)) (notices : List (String × Notice)) :
    List (String × List Notice) :=
  notices.foldl (fun current notice => addTo notice.1 notice.2 current) entries

theorem addAllTo_append (entries : List (String × List Notice)) (first second : List (String × Notice)) :
    addAllTo entries (first ++ second) = addAllTo (addAllTo entries first) second :=
  List.foldl_append

theorem entries_addAll (feedback : Feedback) (notices : List (String × Notice)) :
    (feedback.addAll notices).entries = addAllTo feedback.entries notices := by
  induction notices generalizing feedback with
  | nil => rfl
  | cons notice notices inductionHypothesis => exact inductionHypothesis (feedback.add notice.1 notice.2)

theorem addTo_append {entries : List (String × List Notice)} {path : String}
    (absent : path ∉ entries.map Prod.fst) (notice : Notice) (later : List (String × List Notice)) :
    addTo path notice (entries ++ later) = entries ++ addTo path notice later := by
  induction entries with
  | nil => rfl
  | cons entry entries inductionHypothesis =>
      rw [List.map_cons, List.mem_cons, not_or] at absent
      rw [List.cons_append, addTo, if_neg (Ne.symm absent.1), inductionHypothesis absent.2]
      rfl

/-- The first notice of a group opens an entry after the others, and the later ones join it. -/
theorem addAllTo_group {entries : List (String × List Notice)} {group : String × List Notice}
    (absent : group.1 ∉ entries.map Prod.fst) (inhabited : group.2 ≠ []) :
    addAllTo entries (groupNotices group) = entries ++ [group] := by
  obtain ⟨path, notices⟩ := group
  have joined (earlier later : List Notice) :
      addAllTo (entries ++ [(path, earlier)]) (groupNotices (path, later)) =
        entries ++ [(path, earlier ++ later)] := by
    induction later generalizing earlier with
    | nil => simp [addAllTo, groupNotices]
    | cons notice later inductionHypothesis =>
        have step : addTo path notice (entries ++ [(path, earlier)]) =
            entries ++ [(path, earlier ++ [notice])] := by
          rw [addTo_append absent]
          simp [addTo]
        have onward := inductionHypothesis (earlier ++ [notice])
        rw [← step, List.append_assoc] at onward
        exact onward
  obtain ⟨first, rest, rfl⟩ := List.exists_cons_of_ne_nil inhabited
  have opened : addTo path first entries = entries ++ [(path, [first])] := by
    have added := addTo_append absent first []
    rwa [List.append_nil] at added
  have onward := joined [first] rest
  rw [← opened] at onward
  exact onward

theorem addAllTo_groups {entries groups : List (String × List Notice)}
    (distinct : ((entries ++ groups).map Prod.fst).Nodup)
    (inhabited : ∀ group ∈ groups, group.2 ≠ []) :
    addAllTo entries (groups.flatMap groupNotices) = entries ++ groups := by
  induction groups generalizing entries with
  | nil => simp [addAllTo]
  | cons group groups inductionHypothesis =>
      obtain ⟨inhabitedGroup, inhabited⟩ := List.forall_mem_cons.mp inhabited
      have absent : group.1 ∉ entries.map Prod.fst := by
        rw [List.map_append, List.nodup_append] at distinct
        exact fun member => distinct.2.2 _ member _ List.mem_cons_self rfl
      have distinctLater : (((entries ++ [group]) ++ groups).map Prod.fst).Nodup := by
        simpa using distinct
      have onward := inductionHypothesis distinctLater inhabited
      rw [List.flatMap_cons, addAllTo_append, addAllTo_group absent inhabitedGroup, onward,
        List.append_assoc]
      rfl

/-- Feedback that is built from groups with distinct paths has the groups as its entries. -/
theorem entries_ofNotices {groups : List (String × List Notice)}
    (distinct : (groups.map Prod.fst).Nodup) (inhabited : ∀ group ∈ groups, group.2 ≠ []) :
    (ofNotices (groups.flatMap groupNotices)).entries = groups := by
  rw [ofNotices, entries_addAll]
  exact addAllTo_groups distinct inhabited

/-- Lists of texts for distinct paths stay together. -/
theorem entries_ofPairs {pairs : List (String × List String)}
    (distinct : (pairs.map Prod.fst).Nodup) (inhabited : ∀ pair ∈ pairs, pair.2 ≠ []) :
    (ofPairs pairs).entries = pairs.map fun pair => (pair.1, pair.2.map Notice.text) := by
  have groups : (pairs.map fun pair => (pair.1, pair.2.map Notice.text)).flatMap groupNotices =
      pairs.flatMap fun pair => pair.2.map fun text => (pair.1, .text text) := by
    rw [List.flatMap_map]
    simp only [groupNotices, List.map_map]
    rfl
  rw [ofPairs, ← groups]
  refine entries_ofNotices ?_ ?_
  · rwa [List.map_map]
  · intro group member
    obtain ⟨pair, listed, rfl⟩ := List.mem_map.mp member
    simpa using inhabited pair listed

section Mixed

/-- The notices for one path, in their order. -/
def noticesFor (notices : List (String × Notice)) (path : String) : List Notice :=
  (notices.filter fun notice => notice.1 = path).map Prod.snd

theorem noticesFor_concat (notices : List (String × Notice)) (last : String × Notice) (path : String) :
    noticesFor (notices ++ [last]) path =
      if path = last.1 then noticesFor notices path ++ [last.2] else noticesFor notices path := by
  rw [noticesFor, List.filter_append, List.map_append]
  split
  · next same => simp [noticesFor, same]
  · next differ => simp [noticesFor, Ne.symm differ]

theorem noticesFor_of_not_mem {notices : List (String × Notice)} {path : String}
    (fresh : path ∉ notices.map Prod.fst) : noticesFor notices path = [] := by
  have nothing : (notices.filter fun notice => notice.1 = path) = [] :=
    List.filter_eq_nil_iff.mpr fun notice member same =>
      fresh (List.mem_map.mpr ⟨notice, member, of_decide_eq_true same⟩)
  rw [noticesFor, nothing, List.map_nil]

/-- A notice joins the group of its path, and the other groups stay. -/
theorem addTo_map {names : List String} (distinct : names.Nodup) {path : String}
    (listed : path ∈ names) (group : String → List Notice) (notice : Notice) :
    addTo path notice (names.map fun name => (name, group name)) =
      names.map fun name => (name, if name = path then group name ++ [notice] else group name) := by
  induction names with
  | nil => cases listed
  | cons name names inductionHypothesis =>
      obtain ⟨fresh, distinct⟩ := List.nodup_cons.mp distinct
      rw [List.map_cons, List.map_cons, addTo]
      split
      · next same =>
          congr 1
          refine List.map_congr_left fun other member => ?_
          have differ : other ≠ path := by
            rintro rfl
            change name = other at same
            rw [same] at fresh
            exact fresh member
          rw [if_neg differ]
      · next differ =>
          have later : path ∈ names := (List.mem_cons.mp listed).resolve_left (Ne.symm differ)
          rw [inductionHypothesis distinct later]

/-- There is one entry for each path, in the order in which the paths first occur. -/
theorem entries_ofNotices_mixed (notices : List (String × Notice)) :
    (ofNotices notices).entries =
      (notices.map Prod.fst).eraseDups.map fun path => (path, noticesFor notices path) := by
  rw [ofNotices, entries_addAll]
  induction notices using List.reverseRecOn with
  | nil => rfl
  | append_singleton notices last inductionHypothesis =>
      have step : addAllTo empty.entries (notices ++ [last]) =
          addTo last.1 last.2 (addAllTo empty.entries notices) := addAllTo_append _ _ _
      rw [step, inductionHypothesis, List.map_append, List.map_singleton, eraseDups_concat]
      simp only [noticesFor_concat]
      split
      · next known => exact addTo_map (nodup_eraseDups _) (List.mem_eraseDups.mpr known) _ _
      · next fresh =>
          have absent : last.1 ∉ ((notices.map Prod.fst).eraseDups.map fun path =>
              (path, noticesFor notices path)).map Prod.fst := by
            simpa [List.map_map, Function.comp_def] using fresh
          have opened := addTo_append absent last.2 []
          rw [List.append_nil] at opened
          rw [opened, List.map_append, List.map_singleton, if_pos rfl, noticesFor_of_not_mem fresh]
          congr 1
          refine List.map_congr_left fun path member => ?_
          have differ : path ≠ last.1 := by
            rintro rfl
            exact fresh (List.mem_eraseDups.mp member)
          rw [if_neg differ]

/-- Feedback hands out its notices group by group. -/
theorem notices_ofNotices (notices : List (String × Notice)) :
    (ofNotices notices).notices = groupedBy Prod.fst notices := by
  rw [Feedback.notices, entries_ofNotices_mixed, List.flatMap_map, groupedBy]
  refine List.flatMap_congr fun path _ => ?_
  rw [noticesFor, List.map_map, List.map_congr_left, List.map_id]
  intro notice member
  rw [← of_decide_eq_true (List.mem_filter.mp member).2]
  rfl

end Mixed

end Feedback

end Forms
