/-
This file proves which values are records. A value is read as a record when it has the form of the record
and when each value that it gives for a field can be read.
-/

import Forms.Json.Decode
import Forms.Proofs.Results

namespace Forms

namespace RecordShape

/-- The values that are given for fields, with the names of the fields. -/
def given (shape : RecordShape) : Json → List (String × Json)
  | .object members => members.filter fun member => shape.fields.contains member.1
  | .array items => shape.fields.zip items
  | _ => []

/-- An object has a member for every required field. An array may leave out optional fields at its end. -/
def Fits (shape : RecordShape) : Json → Prop
  | .object members => ∀ name ∈ shape.fields, name ∉ shape.optional → name ∈ members.map Prod.fst
  | .array items =>
      items.length ≤ shape.fields.length ∧
        ∀ name ∈ shape.fields.drop items.length, name ∈ shape.optional
  | _ => False

theorem name_mem_of_mem_given {shape : RecordShape} {value : Json} {part : String × Json}
    (listed : part ∈ shape.given value) : part.1 ∈ shape.fields := by
  cases value with
  | object members => exact List.contains_iff_mem.mp (List.mem_filter.mp listed).2
  | array items => exact (List.of_mem_zip listed).1
  | _ => cases listed

section Reading

variable {Field : Type} {shape : RecordShape} {readField : String → Json → Decoded Field}

/-- The field that is read from a part has the name of the part. -/
def ReadsAs (readField : String → Json → Decoded Field) (part : String × Json)
    (field : String × Field) : Prop :=
  field.1 = part.1 ∧ readField part.1 part.2 = .ok field.2

theorem readMembers_eq_ok_iff {members : List (String × Json)} {fields : List (String × Field)} :
    shape.readMembers readField members = .ok fields ↔
      List.Forall₂ (ReadsAs readField)
        (members.filter fun member => shape.fields.contains member.1) fields := by
  induction members generalizing fields with
  | nil => simp [readMembers, eq_comm]
  | cons member members inductionHypothesis =>
      obtain ⟨key, value⟩ := member
      rw [readMembers, List.filter_cons]
      split
      · next known =>
          rw [List.forall₂_cons_left_iff, bind_eq_ok_iff]
          constructor
          · rintro ⟨field, read, onward⟩
            obtain ⟨rest, readRest, same⟩ := bind_eq_ok_iff.mp onward
            cases same
            exact ⟨(key, field), rest, ⟨rfl, read⟩, inductionHypothesis.mp readRest, rfl⟩
          · rintro ⟨⟨_, field⟩, rest, ⟨rfl, read⟩, readRest, rfl⟩
            exact ⟨field, read, bind_eq_ok_iff.mpr ⟨rest, inductionHypothesis.mpr readRest, rfl⟩⟩
      · exact inductionHypothesis

theorem readItems_eq_ok_iff {position : Nat} {names : List String} {items : List Json}
    {fields : List (String × Field)} :
    shape.readItems readField position names items = .ok fields ↔
      (items.length ≤ names.length ∧ ∀ name ∈ names.drop items.length, name ∈ shape.optional) ∧
        List.Forall₂ (ReadsAs readField) (names.zip items) fields := by
  induction names generalizing position items fields with
  | nil =>
      cases items with
      | nil => simp [readItems, eq_comm]
      | cons item items => simp [readItems]
  | cons name names inductionHypothesis =>
      cases items with
      | nil =>
          rw [readItems]
          split
          · next optional =>
              rw [inductionHypothesis]
              simpa using fun _ _ => optional
          · next required =>
              rw [List.contains_iff_mem] at required
              simp [required]
      | cons item items =>
          rw [readItems, List.zip_cons_cons, List.forall₂_cons_left_iff, bind_eq_ok_iff]
          constructor
          · rintro ⟨field, read, onward⟩
            obtain ⟨rest, readRest, same⟩ := bind_eq_ok_iff.mp onward
            cases same
            obtain ⟨⟨short, optional⟩, found⟩ := inductionHypothesis.mp readRest
            exact ⟨⟨Nat.succ_le_succ short, optional⟩, (name, field), rest, ⟨rfl, read⟩, found, rfl⟩
          · rintro ⟨⟨short, optional⟩, ⟨_, field⟩, rest, ⟨rfl, read⟩, found, rfl⟩
            have readRest : shape.readItems readField (position + 1) names items = .ok rest :=
              inductionHypothesis.mpr ⟨⟨Nat.le_of_succ_le_succ short, optional⟩, found⟩
            exact ⟨field, read, bind_eq_ok_iff.mpr ⟨rest, readRest, rfl⟩⟩

theorem missing?_eq_none_iff {fields : List (String × Field)} :
    shape.missing? fields = none ↔
      ∀ name ∈ shape.fields, name ∉ shape.optional → name ∈ fields.map Prod.fst := by
  rw [missing?, List.find?_eq_none]
  refine forall₂_congr fun name _ => ?_
  by_cases optional : name ∈ shape.optional <;> simp [optional]

theorem names_eq_of_readsAs {parts : List (String × Json)} {fields : List (String × Field)}
    (read : List.Forall₂ (ReadsAs readField) parts fields) :
    fields.map Prod.fst = parts.map Prod.fst := by
  induction read with
  | nil => rfl
  | cons first _ inductionHypothesis =>
      rw [List.map_cons, List.map_cons, first.1, inductionHypothesis]

/-- The field of a part that was given is found by its name. -/
theorem exists_lookup_of_readsAs {parts : List (String × Json)} {fields : List (String × Field)}
    (read : List.Forall₂ (ReadsAs readField) parts fields) {name : String} {value : Json}
    (given : parts.lookup name = some value) :
    ∃ field, fields.lookup name = some field ∧ readField name value = .ok field := by
  induction read with
  | nil => cases given
  | @cons part field parts fields first _ inductionHypothesis =>
      obtain ⟨key, content⟩ := part
      obtain ⟨sameKey, content⟩ := field
      obtain ⟨rfl, readFirst⟩ := first
      simp only [List.lookup_cons] at given ⊢
      split at given
      · next same =>
          cases given
          exact ⟨content, rfl, beq_iff_eq.mp same ▸ readFirst⟩
      · exact inductionHypothesis given

/-- A record is read field by field, and each of its required fields is there. -/
theorem read_eq_ok_iff {value : Json} {fields : List (String × Field)} :
    shape.read readField value = .ok fields ↔
      shape.Fits value ∧ List.Forall₂ (ReadsAs readField) (shape.given value) fields := by
  cases value with
  | array items => exact readItems_eq_ok_iff
  | object members =>
      have complete {found : List (String × Field)}
          (read : List.Forall₂ (ReadsAs readField) (shape.given (.object members)) found) :
          shape.missing? found = none ↔ shape.Fits (.object members) := by
        rw [missing?_eq_none_iff, names_eq_of_readsAs read]
        refine forall₂_congr fun name known => ?_
        simp [given, known]
      rw [RecordShape.read, bind_eq_ok_iff]
      constructor
      · rintro ⟨found, read, checked⟩
        rw [readMembers_eq_ok_iff] at read
        split at checked
        · cases checked
        · next whole =>
            cases checked
            exact ⟨(complete read).mp whole, read⟩
      · rintro ⟨fits, read⟩
        refine ⟨fields, readMembers_eq_ok_iff.mpr read, ?_⟩
        rw [(complete read).mpr fits]
  | _ => simp [RecordShape.read, Json.expected, Fits]

/-- A record of two fields is read from an object with both of them. -/
theorem read_pair {first second : String} (names : shape.fields = [first, second])
    (value other : Json) :
    shape.read readField (.object [(first, value), (second, other)]) =
      readField first value >>= fun field =>
        readField second other >>= fun otherField => .ok [(first, field), (second, otherField)] := by
  have found : shape.readMembers readField [(first, value), (second, other)] =
      readField first value >>= fun field =>
        readField second other >>= fun otherField => .ok [(first, field), (second, otherField)] := by
    simp only [readMembers, names, List.contains_cons, beq_self_eq_true, Bool.true_or, Bool.or_true,
      if_true, bind_assoc]
    rfl
  have complete (field otherField : Field) :
      shape.missing? [(first, field), (second, otherField)] = none :=
    missing?_eq_none_iff.mpr (by simp [names])
  rw [RecordShape.read, found]
  cases readField first value with
  | error fault => rfl
  | ok field =>
      cases readField second other with
      | error fault => rfl
      | ok otherField => simp [bind, Except.bind, complete]

end Reading

end RecordShape

end Forms
