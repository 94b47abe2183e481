/-
This file proves what a draft has to be when it stands for a value, and what the value is then.
-/

import Forms.Json.Draft
import Forms.Proofs.Json.Members
import Mathlib.Data.List.Forall2

namespace Forms

namespace Draft

/-- The drafts directly inside a draft. -/
def parts : Draft → List Draft
  | .array items _ => items
  | .object members _ => members.map Prod.snd
  | _ => []

/-- The keys of the members of an object. -/
def keys : Draft → List (Option String)
  | .object members _ => members.map Prod.fst
  | _ => []

/-- No object in the text repeats a key. -/
inductive DistinctMembers : Draft → Prop where
  | draft {draft : Draft} (keys : draft.keys.Nodup)
      (parts : ∀ part ∈ draft.parts, DistinctMembers part) : DistinctMembers draft

theorem DistinctMembers.keys_nodup {draft : Draft} (distinct : draft.DistinctMembers) :
    draft.keys.Nodup := by
  cases distinct
  assumption

/-- A property of all drafts follows part by part. -/
theorem partInduction {motive : Draft → Prop}
    (draft : ∀ draft : Draft, (∀ part ∈ draft.parts, motive part) → motive draft) (whole : Draft) :
    motive whole :=
  draft whole fun part _ => partInduction draft part
termination_by whole
decreasing_by
  next member =>
    cases whole with
    | array items closed =>
        have smaller := List.sizeOf_lt_of_mem member
        simp only [parts, array.sizeOf_spec] at smaller ⊢
        omega
    | object members closed =>
        obtain ⟨entry, listed, rfl⟩ := List.mem_map.mp member
        have smaller := List.sizeOf_lt_of_mem listed
        cases entry
        simp only [Prod.mk.sizeOf_spec, object.sizeOf_spec] at smaller ⊢
        omega
    | _ => cases member

section Values

variable {room : Nat} {items : List Draft} {members : List (Option String × Draft)}
  {value : Json}

/-- The member of a draft stands for the member of a value. -/
def IsMember (room : Nat) (member : Option String × Draft) (entry : String × Json) : Prop :=
  member.1 = some entry.1 ∧ member.2.toJson? room = some entry.2

theorem itemsToJson?_eq_some_iff {values : List Json} :
    itemsToJson? room items = some values ↔
      List.Forall₂ (fun item value => item.toJson? room = some value) items values := by
  induction items generalizing values with
  | nil => simp [itemsToJson?, eq_comm]
  | cons item items inductionHypothesis =>
      simp only [itemsToJson?, Option.bind_eq_some_iff, Option.map_eq_some_iff,
        List.forall₂_cons_left_iff, inductionHypothesis]
      constructor
      · rintro ⟨first, read, rest, readRest, rfl⟩
        exact ⟨first, rest, read, readRest, rfl⟩
      · rintro ⟨first, rest, read, readRest, rfl⟩
        exact ⟨first, read, rest, readRest, rfl⟩

theorem memberToJson?_eq_some_iff {member : Option String × Draft} {entry : String × Json} :
    memberToJson? room member = some entry ↔ IsMember room member entry := by
  obtain ⟨key, draft⟩ := member
  obtain ⟨name, value⟩ := entry
  simp [memberToJson?, IsMember, Option.bind_eq_some_iff]

theorem membersToJson?_eq_some_iff {entries : List (String × Json)} :
    membersToJson? room members = some entries ↔ List.Forall₂ (IsMember room) members entries := by
  induction members generalizing entries with
  | nil => simp [membersToJson?, eq_comm]
  | cons member members inductionHypothesis =>
      simp only [membersToJson?, Option.bind_eq_some_iff, Option.map_eq_some_iff,
        List.forall₂_cons_left_iff, inductionHypothesis, memberToJson?_eq_some_iff]
      constructor
      · rintro ⟨first, read, rest, readRest, rfl⟩
        exact ⟨first, rest, read, readRest, rfl⟩
      · rintro ⟨first, rest, read, readRest, rfl⟩
        exact ⟨first, read, rest, readRest, rfl⟩

/-- What a draft has to be to stand for a value. Arrays and objects are closed, and there is room for what
they hold. A repeated key of an object takes its last value. -/
inductive StandsFor : Nat → Draft → Json → Prop where
  | null {room : Nat} : StandsFor room .null .null
  | bool {room : Nat} (value : Bool) : StandsFor room (.bool value) (.bool value)
  | number {room : Nat} (value : Number) : StandsFor room (.number (some value)) (.number value)
  | string {room : Nat} (text : String) : StandsFor room (.string (some text)) (.string text)
  | array {room : Nat} {items : List Draft} {values : List Json}
      (each : List.Forall₂ (fun item value => item.toJson? room = some value) items values) :
      StandsFor (room + 1) (.array items true) (.array values)
  | object {room : Nat} {members : List (Option String × Draft)} {entries : List (String × Json)}
      (each : List.Forall₂ (IsMember room) members entries) :
      StandsFor (room + 1) (.object members true) (.object (Json.collectMembers entries))

/-- The value of a draft is what the draft stands for. -/
theorem standsFor_of_toJson? {draft : Draft} (parsed : draft.toJson? room = some value) :
    draft.StandsFor room value := by
  cases draft with
  | null =>
      cases parsed
      exact .null
  | bool flag =>
      cases parsed
      exact .bool flag
  | number number =>
      obtain ⟨number, rfl, rfl⟩ := Option.map_eq_some_iff.mp parsed
      exact .number number
  | string text =>
      obtain ⟨text, rfl, rfl⟩ := Option.map_eq_some_iff.mp parsed
      exact .string text
  | array items closed =>
      cases room with
      | zero => cases parsed
      | succ below =>
          rw [toJson?] at parsed
          obtain ⟨values, read, same⟩ := Option.bind_eq_some_iff.mp parsed
          split at same <;> cases same
          next whole => exact whole ▸ .array (itemsToJson?_eq_some_iff.mp read)
  | object members closed =>
      cases room with
      | zero => cases parsed
      | succ below =>
          rw [toJson?] at parsed
          obtain ⟨entries, read, same⟩ := Option.bind_eq_some_iff.mp parsed
          split at same <;> cases same
          next whole => exact whole ▸ .object (membersToJson?_eq_some_iff.mp read)
  | _ => cases parsed

theorem keys_eq_of_isMember {entries : List (String × Json)}
    (each : List.Forall₂ (IsMember room) members entries) :
    members.map Prod.fst = (entries.map Prod.fst).map some := by
  induction each with
  | nil => rfl
  | cons first _ inductionHypothesis =>
      rw [List.map_cons, first.1, inductionHypothesis]
      rfl

/-- An object of a text that repeats no key gives a value that repeats no key. -/
theorem nodup_of_isMember {entries : List (String × Json)}
    (each : List.Forall₂ (IsMember room) members entries) (distinct : (members.map Prod.fst).Nodup) :
    (entries.map Prod.fst).Nodup := by
  rw [keys_eq_of_isMember each] at distinct
  exact (List.pairwise_map.mp distinct).imp fun differ same => differ (congrArg some same)

/-- A draft that stands for a value is well formed to its end. -/
theorem whole_of_toJson? {draft : Draft} (parsed : draft.toJson? room = some value) :
    draft.whole = true := by
  induction draft using partInduction generalizing room value with
  | draft draft partHypothesis =>
      cases standsFor_of_toJson? parsed with
      | array each =>
          rw [whole, Bool.and_true]
          simp only [parts] at partHypothesis
          clear parsed
          induction each with
          | nil => rfl
          | cons first _ inductionHypothesis =>
              obtain ⟨wholeFirst, wholeRest⟩ := List.forall_mem_cons.mp partHypothesis
              rw [wholeItems, wholeFirst first, inductionHypothesis wholeRest]
              rfl
      | object each =>
          rw [whole, Bool.and_true]
          simp only [parts, List.forall_mem_map] at partHypothesis
          clear parsed
          induction each with
          | nil => rfl
          | cons first _ inductionHypothesis =>
              obtain ⟨wholeFirst, wholeRest⟩ := List.forall_mem_cons.mp partHypothesis
              rw [wholeMembers, wholeMember, wholeFirst first.2, inductionHypothesis wholeRest]
              rfl
      | _ => rfl

end Values

end Draft

end Forms
