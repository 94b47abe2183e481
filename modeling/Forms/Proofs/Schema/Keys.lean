/-
This file holds the induction over the fields of a schema, and what schemas may ask of the keys of
their fields.
-/

import Forms.Path.Basic
import Forms.Schema.Basic

namespace Forms

namespace Schema

/-- A property of all schemas follows field by field, from the children and the items to their parent. -/
theorem fieldInduction {motive : Schema → Prop}
    (field : ∀ schema : Schema, (∀ child ∈ schema.children, motive child.2) →
      (∀ item ∈ schema.items, motive item) → motive schema) (schema : Schema) : motive schema :=
  field schema (fun child _ => fieldInduction field child.2) fun item _ => fieldInduction field item
termination_by schema
decreasing_by
  · next member =>
      have smaller := List.sizeOf_lt_of_mem member
      cases schema
      cases child
      simp only [mk.sizeOf_spec, Prod.mk.sizeOf_spec] at smaller ⊢
      omega
  · next member =>
      cases schema
      cases member
      simp only [mk.sizeOf_spec, Option.some.sizeOf_spec]
      omega

/-- The children of every field of the schema have distinct keys. -/
inductive DistinctKeys : Schema → Prop where
  | field {schema : Schema} (keys : (schema.children.map Prod.fst).Nodup)
      (children : ∀ child ∈ schema.children, DistinctKeys child.2)
      (items : ∀ item ∈ schema.items, DistinctKeys item) : DistinctKeys schema

theorem distinctKeys_iff {schema : Schema} :
    schema.DistinctKeys ↔
      (schema.children.map Prod.fst).Nodup ∧ (∀ child ∈ schema.children, child.2.DistinctKeys) ∧
        ∀ item ∈ schema.items, item.DistinctKeys :=
  ⟨fun ⟨keys, children, items⟩ => ⟨keys, children, items⟩,
    fun ⟨keys, children, items⟩ => .field keys children items⟩

mutual

/-- Whether keys are distinct is decidable, field by field. -/
def decideDistinctKeys : (schema : Schema) → Decidable schema.DistinctKeys
  | ⟨_, _, _, _, _, children, items⟩ =>
      have := decideDistinctChildren children
      have := decideDistinctItems items
      decidable_of_iff ((children.map Prod.fst).Nodup ∧
        (∀ child ∈ children, child.2.DistinctKeys) ∧ ∀ item ∈ items, item.DistinctKeys)
        ⟨fun parts => distinctKeys_iff.mpr parts, fun distinct => distinctKeys_iff.mp distinct⟩
termination_by structural schema => schema

def decideDistinctChildren : (children : List (String × Schema)) →
    Decidable (∀ child ∈ children, child.2.DistinctKeys)
  | [] => isTrue (List.forall_mem_nil _)
  | child :: children =>
      have := decideDistinctChild child
      have := decideDistinctChildren children
      decidable_of_iff (child.2.DistinctKeys ∧ ∀ child ∈ children, child.2.DistinctKeys)
        ⟨fun both => List.forall_mem_cons.mpr both, fun all => List.forall_mem_cons.mp all⟩
termination_by structural children => children

def decideDistinctChild : (child : String × Schema) → Decidable child.2.DistinctKeys
  | (_, schema) => schema.decideDistinctKeys
termination_by structural child => child

def decideDistinctItems : (items : Option Schema) → Decidable (∀ item ∈ items, item.DistinctKeys)
  | none => isTrue (by simp)
  | some item =>
      have := item.decideDistinctKeys
      decidable_of_iff item.DistinctKeys (by simp)
termination_by structural items => items

end

instance (schema : Schema) : Decidable schema.DistinctKeys := schema.decideDistinctKeys

/-- The key of every child can stand in the text of a path. -/
inductive ValidKeys : Schema → Prop where
  | field {schema : Schema} (keys : ∀ child ∈ schema.children, Path.isValidKey child.1 = true)
      (children : ∀ child ∈ schema.children, ValidKeys child.2)
      (items : ∀ item ∈ schema.items, ValidKeys item) : ValidKeys schema

/-- The fields of a schema are schemas of their own. -/
inductive Within (inner : Schema) : Schema → Prop where
  | self : Within inner inner
  | child {schema : Schema} {child : String × Schema} (member : child ∈ schema.children)
      (inside : Within inner child.2) : Within inner schema
  | item {schema item : Schema} (held : item ∈ schema.items) (inside : Within inner item) :
      Within inner schema

theorem Within.trans {inner middle outer : Schema} (first : inner.Within middle)
    (second : middle.Within outer) : inner.Within outer := by
  induction second with
  | self => exact first
  | child member _ inductionHypothesis => exact .child member inductionHypothesis
  | item held _ inductionHypothesis => exact .item held inductionHypothesis

theorem Within.distinctKeys {inner outer : Schema} (inside : inner.Within outer)
    (distinct : outer.DistinctKeys) : inner.DistinctKeys := by
  induction inside with
  | self => exact distinct
  | child member _ inductionHypothesis =>
      cases distinct with
      | field _ children _ => exact inductionHypothesis (children _ member)
  | item held _ inductionHypothesis =>
      cases distinct with
      | field _ _ items => exact inductionHypothesis (items _ held)

/-- A child is found by its key when no other child has the key. -/
theorem find?_key_of_mem {children : List (String × Schema)} (keys : (children.map Prod.fst).Nodup)
    {child : String × Schema} (member : child ∈ children) :
    (children.find? fun other => other.1 == child.1) = some child := by
  induction children with
  | nil => cases member
  | cons first rest inductionHypothesis =>
      obtain ⟨fresh, keys⟩ := List.nodup_cons.mp keys
      rcases List.mem_cons.mp member with rfl | later
      · simp
      · have differ : first.1 ≠ child.1 := fun same =>
          fresh (same ▸ List.mem_map_of_mem later)
        rw [List.find?_cons_of_neg (by simpa using differ)]
        exact inductionHypothesis keys later

end Schema

end Forms
