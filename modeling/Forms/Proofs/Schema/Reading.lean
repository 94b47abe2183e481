/-
This file proves how a schema is read from a value. Members and items are read by one reader of parts,
and the schemas that are read from values without repeated keys have no repeated keys either.
-/

import Forms.Proofs.Json.Members
import Forms.Proofs.Results
import Forms.Proofs.Schema.Keys
import Forms.Schema.Decode

namespace Forms

namespace Schema

theorem Slot.ofName?_name (slot : Slot) : ofName? slot.name = some slot := by
  cases slot <;> decide

/-- A member with the name of a slot is read like an item at the place of the slot. -/
theorem partOfMember_eq (member : String × Json) :
    partOfMember member = (Slot.ofName? member.1).map (partOfItem · member.2) := by
  cases member
  rw [partOfMember]

/-- Every other part is read on its own. -/
theorem partOfItem_plain {slot : Slot} (value : Json) (notChildren : slot ≠ .children)
    (notItems : slot ≠ .items) : partOfItem slot value = plainPart slot value := by
  rw [partOfItem] <;> assumption

/-- The items of a field are missing when they are null, and otherwise they are a schema. -/
theorem partOfItem_items (value : Json) (present : value ≠ .null) :
    partOfItem .items value = (Part.items ∘ some) <$> ofJson value := by
  cases value with
  | null => exact absurd rfl present
  | object members => simp [partOfItem, ofJson]
  | array items => simp [partOfItem, ofJson]
  | _ => rfl

/-- A value that is read as a schema is read as items with the schema. -/
theorem partOfItem_items_of_ofJson {value : Json} {schema : Schema}
    (read : ofJson value = .ok schema) : partOfItem .items value = .ok (.items (some schema)) := by
  have present : value ≠ .null := by
    rintro rfl
    cases read
  rw [partOfItem_items value present, read]
  rfl

section Listing

variable {slots : List Slot} {content : Slot → Json} {part : Slot → Part}

/-- Members are read one by one. -/
theorem partsOfMembers_map
    (reads : ∀ slot ∈ slots, partOfItem slot (content slot) = .ok (part slot)) :
    partsOfMembers (slots.map fun slot => (slot.name, content slot)) = .ok (slots.map part) := by
  induction slots with
  | nil => rfl
  | cons slot slots inductionHypothesis =>
      obtain ⟨first, later⟩ := List.forall_mem_cons.mp reads
      rw [List.map_cons, partsOfMembers, partOfMember_eq, Slot.ofName?_name, Option.map_some, first,
        inductionHypothesis later]
      rfl

/-- Items are read one by one, each as the part at its place. They may stop early, but not before the
kind. -/
theorem partsOfItems_map
    (reads : ∀ slot ∈ slots, partOfItem slot (content slot) = .ok (part slot)) {rest : List Slot}
    (kindRead : Slot.kind ∉ rest) (position : Nat) :
    partsOfItems position (slots ++ rest) (slots.map content) = .ok (slots.map part) := by
  induction slots generalizing position with
  | nil =>
      cases rest with
      | nil => rfl
      | cons slot rest =>
          have other : slot ≠ .kind := fun same => kindRead (same ▸ List.mem_cons_self)
          exact if_neg other
  | cons slot slots inductionHypothesis =>
      obtain ⟨first, later⟩ := List.forall_mem_cons.mp reads
      rw [List.map_cons, List.cons_append, partsOfItems, first, inductionHypothesis later]
      rfl

end Listing

section Origin

variable {parts : List Part} {part : Part}

theorem exists_member_of_mem {members : List (String × Json)}
    (read : partsOfMembers members = .ok parts) (listed : part ∈ parts) :
    ∃ slot, ∃ member ∈ members, partOfItem slot member.2 = .ok part := by
  induction members generalizing parts with
  | nil =>
      cases read
      cases listed
  | cons member members inductionHypothesis =>
      rw [partsOfMembers, partOfMember_eq] at read
      have later {rest : List Part} (read : partsOfMembers members = .ok rest) (listed : part ∈ rest) :
          ∃ slot, ∃ other ∈ member :: members, partOfItem slot other.2 = .ok part := by
        obtain ⟨slot, other, inside, found⟩ := inductionHypothesis read listed
        exact ⟨slot, other, List.mem_cons_of_mem member inside, found⟩
      cases named : Slot.ofName? member.1 with
      | none =>
          rw [named] at read
          exact later read listed
      | some slot =>
          rw [named] at read
          obtain ⟨first, found, onward⟩ := bind_eq_ok_iff.mp read
          obtain ⟨rest, readRest, same⟩ := bind_eq_ok_iff.mp onward
          cases same
          rcases List.mem_cons.mp listed with rfl | inRest
          · exact ⟨slot, member, List.mem_cons_self, found⟩
          · exact later readRest inRest

theorem exists_item_of_mem {position : Nat} {slots : List Slot} {items : List Json}
    (read : partsOfItems position slots items = .ok parts) (listed : part ∈ parts) :
    ∃ slot, ∃ item ∈ items, partOfItem slot item = .ok part := by
  induction items generalizing position slots parts with
  | nil =>
      cases slots with
      | nil =>
          cases read
          cases listed
      | cons slot slots =>
          rw [partsOfItems] at read
          split at read <;> cases read
          cases listed
  | cons item items inductionHypothesis =>
      cases slots with
      | nil => cases read
      | cons slot slots =>
          rw [partsOfItems] at read
          obtain ⟨first, found, onward⟩ := bind_eq_ok_iff.mp read
          obtain ⟨rest, readRest, same⟩ := bind_eq_ok_iff.mp onward
          cases same
          rcases List.mem_cons.mp listed with rfl | inRest
          · exact ⟨slot, item, List.mem_cons_self, found⟩
          · obtain ⟨slot, other, inside, foundLater⟩ := inductionHypothesis readRest inRest
            exact ⟨slot, other, List.mem_cons_of_mem item inside, foundLater⟩

/-- A schema is put together from parts that are read from the values directly inside its value. -/
theorem exists_parts_of_ofJson {value : Json} {schema : Schema} (read : ofJson value = .ok schema) :
    ∃ parts, ofParts parts = .ok schema ∧
      ∀ part ∈ parts, ∃ slot, ∃ inner ∈ value.parts, partOfItem slot inner = .ok part := by
  cases value with
  | object members =>
      obtain ⟨parts, found, together⟩ := bind_eq_ok_iff.mp read
      refine ⟨parts, together, fun part listed => ?_⟩
      obtain ⟨slot, member, inside, readPart⟩ := exists_member_of_mem found listed
      exact ⟨slot, member.2, List.mem_map_of_mem inside, readPart⟩
  | array items =>
      obtain ⟨parts, found, together⟩ := bind_eq_ok_iff.mp read
      exact ⟨parts, together, fun part listed => exists_item_of_mem found listed⟩
  | _ => cases read

/-- Naming the child in a fault does not change what is read. -/
theorem atChild_eq_ok_iff {Value : Type} {key : String} {decoded : Decoded Value} {value : Value} :
    atChild key decoded = .ok value ↔ decoded = .ok value := by
  cases decoded <;> simp [atChild]

/-- Every child is read from the member with its key. -/
theorem children_of_childrenOfMembers {members : List (String × Json)}
    {children : List (String × Schema)} (read : childrenOfMembers members = .ok children) :
    children.map Prod.fst = members.map Prod.fst ∧
      ∀ child ∈ children, ∃ member ∈ members, ofJson member.2 = .ok child.2 := by
  induction members generalizing children with
  | nil =>
      cases read
      exact ⟨rfl, fun _ listed => nomatch listed⟩
  | cons member members inductionHypothesis =>
      obtain ⟨key, value⟩ := member
      obtain ⟨child, readChild, onward⟩ := bind_eq_ok_iff.mp read
      obtain ⟨rest, readRest, same⟩ := bind_eq_ok_iff.mp onward
      obtain ⟨schema, found, sameChild⟩ := bind_eq_ok_iff.mp readChild
      cases same
      cases sameChild
      obtain ⟨keys, origins⟩ := inductionHypothesis readRest
      refine ⟨by rw [List.map_cons, List.map_cons, keys], List.forall_mem_cons.mpr ⟨?_, ?_⟩⟩
      · exact ⟨(key, value), List.mem_cons_self, atChild_eq_ok_iff.mp found⟩
      · intro other listed
        obtain ⟨member, inside, readMember⟩ := origins other listed
        exact ⟨member, List.mem_cons_of_mem _ inside, readMember⟩

end Origin

/-- A part brings no repeated keys into a schema. -/
def Part.DistinctKeys : Part → Prop
  | .children fields => (fields.map Prod.fst).Nodup ∧ ∀ field ∈ fields, field.2.DistinctKeys
  | .items held => ∀ schema ∈ held, schema.DistinctKeys
  | _ => True

/-- What has been collected so far has no repeated keys. -/
structure Partial.DistinctKeys (collected : Partial) : Prop where
  keys : (collected.children.map Prod.fst).Nodup
  children : ∀ child ∈ collected.children, child.2.DistinctKeys
  items : ∀ item ∈ collected.items, item.DistinctKeys

theorem Partial.DistinctKeys.add {collected : Partial} (distinct : collected.DistinctKeys) {part : Part}
    (partDistinct : part.DistinctKeys) : (collected.add part).DistinctKeys := by
  obtain ⟨keys, children, items⟩ := distinct
  cases part with
  | children new => exact ⟨partDistinct.1, partDistinct.2, items⟩
  | items new => exact ⟨keys, children, partDistinct⟩
  | _ => exact ⟨keys, children, items⟩

theorem Partial.DistinctKeys.foldl {collected : Partial} (distinct : collected.DistinctKeys)
    {parts : List Part} (partsDistinct : ∀ part ∈ parts, part.DistinctKeys) :
    (parts.foldl Partial.add collected).DistinctKeys := by
  induction parts generalizing collected with
  | nil => exact distinct
  | cons part parts inductionHypothesis =>
      obtain ⟨first, later⟩ := List.forall_mem_cons.mp partsDistinct
      exact inductionHypothesis (distinct.add first) later

theorem distinctKeys_of_ofParts {parts : List Part} {schema : Schema}
    (together : ofParts parts = .ok schema) (distinct : ∀ part ∈ parts, part.DistinctKeys) :
    schema.DistinctKeys := by
  have empty : Partial.DistinctKeys {} :=
    { keys := .nil
      children := fun _ inside => nomatch inside
      items := fun _ held => nomatch held }
  obtain ⟨keys, children, items⟩ := empty.foldl distinct
  simp only [ofParts] at together
  split at together
  · cases together
  · cases together
    exact .field keys children items

/-- The parts that hold no other schema have no keys. -/
theorem distinctKeys_of_plainPart {slot : Slot} {value : Json} {part : Part}
    (read : plainPart slot value = .ok part) : part.DistinctKeys := by
  cases slot <;> obtain ⟨_, _, rfl⟩ := map_eq_ok_iff.mp read <;> trivial

/-- A value holds only parts without repeated keys when the values inside it do. -/
theorem distinctKeys_of_parts {value : Json} {schema : Schema} (read : ofJson value = .ok schema)
    (inside : ∀ inner ∈ value.parts, ∀ slot part, partOfItem slot inner = .ok part →
      part.DistinctKeys) : schema.DistinctKeys := by
  obtain ⟨parts, together, origins⟩ := exists_parts_of_ofJson read
  apply distinctKeys_of_ofParts together
  intro part listed
  obtain ⟨slot, inner, member, readPart⟩ := origins part listed
  exact inside inner member slot part readPart

/-- A value without repeated keys is read as a part without repeated keys. -/
theorem distinctKeys_of_partOfItem {value : Json} (distinct : value.DistinctMembers) {slot : Slot}
    {part : Part} (read : partOfItem slot value = .ok part) : part.DistinctKeys := by
  induction distinct generalizing slot part with
  | @value value keys _ partHypothesis =>
      cases slot with
      | children =>
          cases value with
          | object members =>
              rw [partOfItem] at read
              obtain ⟨fields, decoded, rfl⟩ := map_eq_ok_iff.mp read
              obtain ⟨sameKeys, origins⟩ := children_of_childrenOfMembers decoded
              refine ⟨sameKeys ▸ keys, fun field listed => ?_⟩
              obtain ⟨member, inside, readMember⟩ := origins field listed
              -- The schema of the child would also be read as items, which the hypothesis is about.
              have asItems := partOfItem_items_of_ofJson readMember
              exact partHypothesis _ (List.mem_map_of_mem inside) asItems field.2 rfl
          | _ => cases read
      | items =>
          by_cases missing : value = .null
          · subst missing
            cases read
            exact fun _ held => nomatch held
          · rw [partOfItem_items value missing] at read
            obtain ⟨schema, decoded, rfl⟩ := map_eq_ok_iff.mp read
            rintro _ ⟨⟩
            exact distinctKeys_of_parts decoded fun inner inside _ _ => partHypothesis inner inside
      | _ =>
          rw [partOfItem_plain value (by decide) (by decide)] at read
          exact distinctKeys_of_plainPart read

theorem distinctKeys_of_ofJson {value : Json} (distinct : value.DistinctMembers) {schema : Schema}
    (read : ofJson value = .ok schema) : schema.DistinctKeys := by
  cases distinct with
  | value _ inside =>
      exact distinctKeys_of_parts read fun inner member _ _ =>
        distinctKeys_of_partOfItem (inside inner member)

end Schema

end Forms
