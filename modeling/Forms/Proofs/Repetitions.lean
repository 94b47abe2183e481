/-
This file proves facts about lists without repeated elements, and about lists that are put together group
by group. A group keeps the order of its elements, and the groups have the order of their first elements.
-/

import Mathlib.Data.List.Basic
import Mathlib.Data.List.Induction

namespace Forms

section Erasing

variable {Element Image : Type} [BEq Element] [LawfulBEq Element] [BEq Image] [LawfulBEq Image]

/-- A last element stays when it is new. -/
theorem eraseDups_concat (elements : List Element) (last : Element) :
    (elements ++ [last]).eraseDups =
      if last ∈ elements then elements.eraseDups else elements.eraseDups ++ [last] := by
  rw [List.eraseDups_append]
  split
  · next repeated => simp [List.removeAll, repeated]
  · next fresh => simp [List.removeAll, fresh, List.eraseDups_cons]

theorem nodup_eraseDups (elements : List Element) : elements.eraseDups.Nodup := by
  induction elements using List.reverseRecOn with
  | nil => exact .nil
  | append_singleton elements last inductionHypothesis =>
      rw [eraseDups_concat]
      split
      · exact inductionHypothesis
      · next fresh =>
          refine List.nodup_append.mpr ⟨inductionHypothesis, by simp, ?_⟩
          rintro element member _ added rfl
          rw [List.mem_singleton.mp added, List.mem_eraseDups] at member
          exact fresh member

theorem eraseDups_of_nodup {elements : List Element} (distinct : elements.Nodup) :
    elements.eraseDups = elements := by
  induction elements using List.reverseRecOn with
  | nil => rfl
  | append_singleton elements last inductionHypothesis =>
      obtain ⟨front, _, apart⟩ := List.nodup_append.mp distinct
      have fresh : last ∉ elements := fun member => apart last member last (by simp) rfl
      rw [eraseDups_concat, if_neg fresh, inductionHypothesis front]

/-- Elements that stay different repeat where they repeated before. -/
theorem eraseDups_map {change : Element → Image} (injective : Function.Injective change)
    (elements : List Element) : (elements.map change).eraseDups = elements.eraseDups.map change := by
  induction elements using List.reverseRecOn with
  | nil => rfl
  | append_singleton elements last inductionHypothesis =>
      rw [List.map_append, List.map_singleton, eraseDups_concat, eraseDups_concat,
        inductionHypothesis]
      simp only [List.mem_map_of_injective injective]
      split
      · rfl
      · rw [List.map_append, List.map_singleton]

/-- Of equal elements one stays. -/
theorem eraseDups_replicate (count : Nat) (element : Element) :
    (List.replicate count element).eraseDups = List.replicate (min count 1) element := by
  cases count with
  | zero => rfl
  | succ count => simp [List.replicate_succ, List.eraseDups_cons]

end Erasing

section Grouping

variable {Element Image Key : Type} [DecidableEq Key]

/-- The elements group by group. The groups come in the order in which their keys first occur, and the
elements of one group keep their order. -/
def groupedBy (key : Element → Key) (elements : List Element) : List Element :=
  (elements.map key).eraseDups.flatMap fun name => elements.filter fun element => key element = name

theorem groupedBy_map (key : Image → Key) (change : Element → Image) (elements : List Element) :
    groupedBy key (elements.map change) = (groupedBy (key ∘ change) elements).map change := by
  simp only [groupedBy, List.map_map, List.map_flatMap, List.filter_map]
  rfl

/-- Keys that stay different make the same groups. -/
theorem groupedBy_comp [DecidableEq Image] {change : Key → Image}
    (injective : Function.Injective change) (key : Element → Key) (elements : List Element) :
    groupedBy (change ∘ key) elements = groupedBy key elements := by
  rw [groupedBy, ← List.map_map, eraseDups_map injective, List.flatMap_map, groupedBy]
  simp only [Function.comp_apply, injective.eq_iff]

/-- Grouping loses no element and repeats none. -/
theorem groupedBy_perm (key : Element → Key) (elements : List Element) :
    (groupedBy key elements).Perm elements := by
  have regrouped (names : List Key) (distinct : names.Nodup) (elements : List Element)
      (covered : ∀ element ∈ elements, key element ∈ names) :
      (names.flatMap fun name => elements.filter fun element => key element = name).Perm elements := by
    induction names generalizing elements with
    | nil =>
        have nothing : elements = [] := List.eq_nil_iff_forall_not_mem.mpr fun element member =>
          nomatch covered element member
        rw [nothing]
        exact .nil
    | cons name names inductionHypothesis =>
        obtain ⟨fresh, distinct⟩ := List.nodup_cons.mp distinct
        -- The later groups have no element of the first one.
        have later (other : Key) (member : other ∈ names) :
            (elements.filter fun element => key element = other) =
              (elements.filter fun element => !decide (key element = name)).filter
                fun element => key element = other := by
          rw [List.filter_filter]
          refine List.filter_congr fun element _ => ?_
          by_cases same : key element = other
          · have differ : other ≠ name := fun equal => fresh (equal ▸ member)
            simp [same, differ]
          · simp [same]
        have rest := inductionHypothesis distinct
          (elements.filter fun element => !decide (key element = name)) (by
            intro element member
            obtain ⟨listed, differ⟩ := List.mem_filter.mp member
            have named := covered element listed
            rw [List.mem_cons] at named
            exact named.resolve_left (by simpa using differ))
        rw [List.flatMap_cons, List.flatMap_congr later]
        exact (rest.append_left _).trans (List.filter_append_perm _ _)
  refine regrouped _ (nodup_eraseDups _) elements fun element member => ?_
  exact List.mem_eraseDups.mpr (List.mem_map_of_mem member)

end Grouping

end Forms
