/-
This file proves which entry of a rulebook governs a path. In a rulebook whose paths name no position
it is the entry of the path with every position left open.
-/

import Forms.Proofs.Path.General
import Forms.Rulebook

namespace Forms

namespace Rulebook

/-- Every entry of a general rulebook has a general path. -/
def IsGeneral (book : Rulebook) : Prop := ∀ path ∈ book.paths, path.IsGeneral

/-- The paths of a declared rulebook consist of valid keys and placeholders. -/
def IsDeclared (book : Rulebook) : Prop := ∀ path ∈ book.paths, ∀ step ∈ path.steps, step.IsDeclared

theorem IsDeclared.isGeneral {book : Rulebook} (declared : book.IsDeclared) : book.IsGeneral :=
  fun path member => Path.isGeneral_of_isDeclared (declared path member)

theorem get?_eq_some_iff {book : Rulebook} {path : Path} {rules : List Rule} :
    book.get? path = some rules ↔ (path, rules) ∈ book.toList :=
  OrderedMap.get?_eq_some_iff

theorem mem_paths_of_mem {book : Rulebook} {entry : Path × List Rule} (member : entry ∈ book.toList) :
    entry.1 ∈ book.paths :=
  List.mem_map.mpr ⟨entry, member, rfl⟩

theorem toList_nodup (book : Rulebook) : book.toList.Nodup := book.entries.entries_nodup

/-- An entry of a general rulebook that a path equals or is an instance of has the general form of the
path as its path. -/
theorem IsGeneral.eq_generalize {book : Rulebook} (general : book.IsGeneral) {path : Path}
    {entry : Path × List Rule} (member : entry ∈ book.toList)
    (governs : entry.1 = path ∨ path.isInstanceOf entry.1 = true) : entry.1 = path.generalize := by
  have unplaced := general entry.1 (mem_paths_of_mem member)
  rcases governs with rfl | matched
  · exact (Path.generalize_eq_self unplaced).symm
  · exact (Path.isInstanceOf_iff_generalize unplaced).mp matched

/-- A general rulebook is searched by the general form of a path. -/
theorem IsGeneral.resolve?_eq {book : Rulebook} (general : book.IsGeneral) (path : Path) :
    book.resolve? path = (book.get? path.generalize).map fun rules => (path.generalize, rules) := by
  unfold resolve?
  cases exact : book.get? path with
  | some rules =>
      have member := get?_eq_some_iff.mp exact
      have same : path = path.generalize := general.eq_generalize member (.inl rfl)
      rw [← same, exact]
      rfl
  | none =>
      cases found : book.toList.find? fun entry => entry.1.isTemplate && path.isInstanceOf entry.1 with
      | some entry =>
          have member := List.mem_of_find?_eq_some found
          have matched := List.find?_some found
          simp only [Bool.and_eq_true] at matched
          have same := general.eq_generalize member (.inr matched.2)
          rw [← same, get?_eq_some_iff.mpr member]
          rfl
      | none =>
          cases governed : book.get? path.generalize with
          | none => rfl
          | some rules =>
              -- The path differs from its general form, so the entry is a template and would be found.
              have member := get?_eq_some_iff.mp governed
              have template : path.generalize.isTemplate = true := by
                by_contra concrete
                rw [Path.generalize_eq_self_of_concrete (Bool.eq_false_iff.mpr concrete)] at governed
                rw [governed] at exact
                cases exact
              have matched := (Path.isInstanceOf_iff_generalize
                (general _ (mem_paths_of_mem member))).mpr rfl
              have missed := List.find?_eq_none.mp found _ member
              simp [template, matched] at missed

/-- An entry of a general rulebook governs the paths that it equals and the paths that are instances of
it. -/
theorem IsGeneral.resolve?_eq_some_iff {book : Rulebook} (general : book.IsGeneral) {path : Path}
    {entry : Path × List Rule} :
    book.resolve? path = some entry ↔
      entry ∈ book.toList ∧ (entry.1 = path ∨ path.isInstanceOf entry.1 = true) := by
  rw [general.resolve?_eq, Option.map_eq_some_iff]
  constructor
  · rintro ⟨rules, found, rfl⟩
    have member := get?_eq_some_iff.mp found
    exact ⟨member, .inr ((Path.isInstanceOf_iff_generalize
      (general _ (mem_paths_of_mem member))).mpr rfl)⟩
  · rintro ⟨member, governs⟩
    have same := general.eq_generalize member governs
    exact ⟨entry.2, get?_eq_some_iff.mpr (same ▸ member), by rw [← same]⟩

/-- The paths of an unambiguous rulebook have different general forms. -/
def IsUnambiguous (book : Rulebook) : Prop :=
  ∀ left ∈ book.paths, ∀ right ∈ book.paths, left.generalize = right.generalize → left = right

theorem IsGeneral.isUnambiguous {book : Rulebook} (general : book.IsGeneral) : book.IsUnambiguous := by
  intro left leftMember right rightMember same
  rwa [Path.generalize_eq_self (general left leftMember),
    Path.generalize_eq_self (general right rightMember)] at same

/-- A path is an instance of one entry of an unambiguous rulebook at most. -/
theorem IsUnambiguous.eq_of_isInstanceOf {book : Rulebook} (unambiguous : book.IsUnambiguous)
    {path : Path} {left right : Path × List Rule} (leftMember : left ∈ book.toList)
    (rightMember : right ∈ book.toList) (leftMatched : path.isInstanceOf left.1 = true)
    (rightMatched : path.isInstanceOf right.1 = true) : left = right := by
  have samePath : left.1 = right.1 :=
    unambiguous left.1 (mem_paths_of_mem leftMember) right.1 (mem_paths_of_mem rightMember)
      ((Path.generalize_eq_of_isInstanceOf leftMatched).symm.trans
        (Path.generalize_eq_of_isInstanceOf rightMatched))
  have leftFound := get?_eq_some_iff.mpr leftMember
  have rightFound := get?_eq_some_iff.mpr rightMember
  rw [samePath, rightFound] at leftFound
  exact Prod.ext samePath (Option.some.inj leftFound).symm

end Rulebook

end Forms
