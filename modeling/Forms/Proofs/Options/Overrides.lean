/-
This file proves that overrides replace the options of a group field by field. A field that the overrides
name is taken from them, and every other field stays as it was.
-/

import Forms.Options
import Forms.Proofs.Json.Records

namespace Forms

namespace Json

/-- Overrides are null or an object. -/
def IsOverride (value : Json) : Prop := value = .null ∨ ∃ members, value = .object members

/-- The members of the second object are put over those of the first. Null has no members. -/
def overlaid (first second : Json) : Json :=
  match first, second with
  | first, .null => first
  | .object earlier, .object later =>
      .object (later.foldr (fun member members => putMember member.1 member.2 members) earlier)
  | _, second => second

theorem findMember_overlaid (earlier later : List (String × Json)) (key : String) :
    findMember key (later.foldr (fun member members => putMember member.1 member.2 members) earlier) =
      (findMember key later).or (findMember key earlier) := by
  induction later with
  | nil => rfl
  | cons member later inductionHypothesis =>
      rw [List.foldr_cons, findMember_putMember, inductionHypothesis, findMember]
      split <;> rfl

variable {first second : Json}

theorem isOverride_overlaid (override : first.IsOverride) :
    (first.overlaid second).IsOverride ↔ second.IsOverride := by
  rcases override with rfl | ⟨earlier, rfl⟩ <;> cases second <;> simp [overlaid, IsOverride]

/-- A member of the second object hides the member of the first one. -/
theorem member?_overlaid (override : first.IsOverride) (otherOverride : second.IsOverride)
    (key : String) : (first.overlaid second).member? key = (second.member? key).or (first.member? key) := by
  rcases otherOverride with rfl | ⟨later, rfl⟩
  · cases first <;> rfl
  · rcases override with rfl | ⟨earlier, rfl⟩
    · exact Option.or_none.symm
    · exact findMember_overlaid earlier later key

end Json

/-- One field of a group of options. What is written for the field is read back. -/
structure OptionField (Options : Type) where
  name : String
  Content : Type
  content : Options → Content
  write : Content → Json
  read : Json → Decoded Content
  read_write : ∀ content, read (write content) = .ok content

namespace OptionField

variable {Options : Type}

/-- A field that holds a text. -/
def text (name : String) (content : Options → String) : OptionField Options where
  name := name
  Content := String
  content := content
  write := .string
  read := Json.toText
  read_write _ := rfl

/-- The overrides name nothing for the field that the field cannot hold. -/
def Accepts (field : OptionField Options) (overrides : Json) : Prop :=
  ∀ value, overrides.member? field.name = some value → ∃ content, field.read value = .ok content

/-- The field is taken from the overrides when they name it, and otherwise it stays. -/
def Takes (field : OptionField Options) (before after : Options) (overrides : Json) : Prop :=
  match overrides.member? field.name with
  | some value => field.read value = .ok (field.content after)
  | none => field.content after = field.content before

/-- The value that the field is read from when overrides are put over the options. -/
def merged (field : OptionField Options) (before : Options) (overrides : Json) : Json :=
  (overrides.member? field.name).getD (field.write (field.content before))

variable {field : OptionField Options} {before middle after : Options} {overrides first second : Json}

theorem takes_of_some {value : Json} (found : overrides.member? field.name = some value) :
    field.Takes before after overrides ↔ field.read value = .ok (field.content after) := by
  rw [Takes, found]

theorem takes_of_none (missing : overrides.member? field.name = none) :
    field.Takes before after overrides ↔ field.content after = field.content before := by
  rw [Takes, missing]

theorem read_merged_eq_ok_iff :
    field.read (field.merged before overrides) = .ok (field.content after) ↔
      field.Takes before after overrides := by
  rw [merged]
  cases found : overrides.member? field.name with
  | none => rw [takes_of_none found, Option.getD_none, field.read_write, Except.ok.injEq, eq_comm]
  | some value => rw [takes_of_some found, Option.getD_some]

theorem exists_read_merged_iff :
    (∃ content, field.read (field.merged before overrides) = .ok content) ↔ field.Accepts overrides := by
  rw [merged, Accepts]
  cases overrides.member? field.name with
  | none => simp [field.read_write]
  | some value => simp

/-- Overrides that follow others are put over what the others left. -/
theorem takes_overlaid_iff (override : first.IsOverride) (otherOverride : second.IsOverride)
    (taken : field.Takes before middle first) :
    field.Takes before after (first.overlaid second) ↔ field.Takes middle after second := by
  have overlaid := Json.member?_overlaid override otherOverride field.name
  cases foundLater : second.member? field.name with
  | some value =>
      rw [foundLater, Option.some_or] at overlaid
      rw [takes_of_some overlaid, takes_of_some foundLater]
  | none =>
      rw [foundLater, Option.none_or] at overlaid
      rw [takes_of_none foundLater]
      cases found : first.member? field.name with
      | some value =>
          rw [takes_of_some found] at taken
          rw [takes_of_some (overlaid.trans found), taken, Except.ok.injEq, eq_comm]
      | none =>
          rw [takes_of_none found] at taken
          rw [takes_of_none (overlaid.trans found), taken]

end OptionField

namespace OptionGroup

variable {Options : Type}

/-- The options of a group are a record of fields. They are written field by field, and they are read
from values that each field can hold. -/
structure ConsistsOf (group : OptionGroup Options) (fields : List (OptionField Options)) : Prop where
  write_eq : ∀ options, group.write options =
    .object (fields.map fun field => (field.name, field.write (field.content options)))
  read_eq_ok_iff : ∀ (values : OptionField Options → Json) (options : Options),
    group.read (.object (fields.map fun field => (field.name, values field))) = .ok options ↔
      ∀ field ∈ fields, field.read (values field) = .ok (field.content options)
  exists_options : ∀ values : OptionField Options → Json,
    (∀ field ∈ fields, ∃ content, field.read (values field) = .ok content) →
      ∃ options, ∀ field ∈ fields, field.read (values field) = .ok (field.content options)

/-- A group of two fields is read by reading both of them. -/
theorem consistsOf_pair {group : OptionGroup Options} {first second : OptionField Options}
    (build : first.Content → second.Content → Options)
    (write_eq : ∀ options, group.write options =
      .object [(first.name, first.write (first.content options)),
        (second.name, second.write (second.content options))])
    (read_eq : ∀ value other, group.read (.object [(first.name, value), (second.name, other)]) =
      first.read value >>= fun content => second.read other >>= fun next => .ok (build content next))
    (first_build : ∀ content next, first.content (build content next) = content)
    (second_build : ∀ content next, second.content (build content next) = next)
    (build_contents : ∀ options, build (first.content options) (second.content options) = options) :
    group.ConsistsOf [first, second] where
  write_eq := write_eq
  read_eq_ok_iff values options := by
    rw [List.map_cons, List.map_cons, List.map_nil, read_eq, List.forall_mem_cons,
      List.forall_mem_singleton]
    simp only [bind_eq_ok_iff, Except.ok.injEq]
    constructor
    · rintro ⟨content, readFirst, next, readSecond, rfl⟩
      rw [first_build, second_build]
      exact ⟨readFirst, readSecond⟩
    · rintro ⟨readFirst, readSecond⟩
      exact ⟨_, readFirst, _, readSecond, build_contents options⟩
  exists_options values readable := by
    rw [List.forall_mem_cons, List.forall_mem_singleton] at readable
    obtain ⟨⟨content, readFirst⟩, next, readSecond⟩ := readable
    refine ⟨build content next, ?_⟩
    rw [List.forall_mem_cons, List.forall_mem_singleton, first_build, second_build]
    exact ⟨readFirst, readSecond⟩

/-- Overrides are acceptable when they are null or an object, and every field accepts them. -/
def Acceptable (fields : List (OptionField Options)) (overrides : Json) : Prop :=
  overrides.IsOverride ∧ ∀ field ∈ fields, field.Accepts overrides

/-- Overrides act on a group field by field. They succeed exactly when they are acceptable. The fields
determine the options, so the options that come out are known too. Overrides that follow others do the
same as one object with the later members over the earlier ones. -/
structure OverriddenByField (group : OptionGroup Options) (fields : List (OptionField Options)) :
    Prop where
  determined : ∀ left right : Options, (∀ field ∈ fields, field.content left = field.content right) →
    left = right
  accepts : ∀ before overrides,
    (∃ after, group.merge before overrides = .ok after) ↔ Acceptable fields overrides
  takes : ∀ before overrides after, group.merge before overrides = .ok after →
    ∀ field ∈ fields, field.Takes before after overrides
  follows : ∀ before first middle, group.merge before first = .ok middle → ∀ second after,
    group.merge middle second = .ok after ↔ group.merge before (first.overlaid second) = .ok after

variable {group : OptionGroup Options} {fields : List (OptionField Options)}
  {before middle after : Options} {overrides first second : Json}

theorem readBack_eq_ok_iff {value : Json} :
    group.readBack value = .ok after ↔ group.read value = .ok after := by
  rw [readBack]
  cases group.read value <;> simp

theorem isOverride_of_merge (merged : group.merge before overrides = .ok after) :
    overrides.IsOverride := by
  cases overrides with
  | null => exact .inl rfl
  | object members => exact .inr ⟨members, rfl⟩
  | _ => cases merged

/-- A fault of a merge names the group. -/
theorem target_of_merge {error : OverrideError} (refused : group.merge before overrides = .error error) :
    error.target = group.target := by
  have named {value : Json} (refused : group.readBack value = .error error) :
      error.target = group.target := by
    rw [readBack] at refused
    split at refused <;> cases refused
    rfl
  cases overrides with
  | null => exact named refused
  | object members =>
      rw [merge] at refused
      split at refused <;> exact named refused
  | _ =>
      cases refused
      rfl

namespace ConsistsOf

variable (consists : group.ConsistsOf fields)

include consists

/-- A merge reads every field from the overrides or from what was written for it. -/
theorem merge_eq (override : overrides.IsOverride) :
    group.merge before overrides =
      group.readBack (.object (fields.map fun field => (field.name, field.merged before overrides))) := by
  rcases override with rfl | ⟨members, rfl⟩
  · rw [merge, consists.write_eq]
    rfl
  · rw [merge, consists.write_eq]
    simp only [replaceMembers, List.map_map]
    rfl

theorem merge_eq_ok_iff :
    group.merge before overrides = .ok after ↔
      overrides.IsOverride ∧ ∀ field ∈ fields, field.Takes before after overrides := by
  by_cases override : overrides.IsOverride
  · rw [consists.merge_eq override, readBack_eq_ok_iff, consists.read_eq_ok_iff]
    simp only [OptionField.read_merged_eq_ok_iff, override, true_and]
  · exact iff_of_false (fun merged => override (isOverride_of_merge merged)) fun taken =>
      override taken.1

theorem exists_merge_iff :
    (∃ after, group.merge before overrides = .ok after) ↔ Acceptable fields overrides := by
  constructor
  · rintro ⟨after, merged⟩
    refine ⟨isOverride_of_merge merged, fun field listed => ?_⟩
    have taken := (consists.merge_eq_ok_iff.mp merged).2 field listed
    exact OptionField.exists_read_merged_iff.mp ⟨_, OptionField.read_merged_eq_ok_iff.mpr taken⟩
  · rintro ⟨override, accepted⟩
    obtain ⟨after, read⟩ := consists.exists_options (fun field => field.merged before overrides)
      fun field listed => OptionField.exists_read_merged_iff.mpr (accepted field listed)
    refine ⟨after, consists.merge_eq_ok_iff.mpr ⟨override, fun field listed => ?_⟩⟩
    exact OptionField.read_merged_eq_ok_iff.mp (read field listed)

/-- Options with the same fields are read from the same text, so they are the same. -/
theorem eq_of_contents {left right : Options}
    (same : ∀ field ∈ fields, field.content left = field.content right) : left = right := by
  have readLeft := (consists.read_eq_ok_iff (fun field => field.write (field.content left)) left).mpr
    fun field _ => field.read_write _
  have readRight := (consists.read_eq_ok_iff (fun field => field.write (field.content left)) right).mpr
    fun field listed => same field listed ▸ field.read_write _
  exact Except.ok.inj (readLeft.symm.trans readRight)

theorem merge_overlaid (merged : group.merge before first = .ok middle) :
    group.merge middle second = .ok after ↔ group.merge before (first.overlaid second) = .ok after := by
  obtain ⟨override, taken⟩ := consists.merge_eq_ok_iff.mp merged
  rw [consists.merge_eq_ok_iff, consists.merge_eq_ok_iff, Json.isOverride_overlaid override]
  refine and_congr_right fun otherOverride => forall₂_congr fun field listed => ?_
  exact (OptionField.takes_overlaid_iff override otherOverride (taken field listed)).symm

theorem overriddenByField : group.OverriddenByField fields where
  determined _ _ := consists.eq_of_contents
  accepts _ _ := consists.exists_merge_iff
  takes _ _ _ merged := (consists.merge_eq_ok_iff.mp merged).2
  follows _ _ _ merged _ _ := consists.merge_overlaid merged

end ConsistsOf

end OptionGroup

end Forms
