/-
This file holds the schemas of forms. A schema is a tree of fields, and every field declares the
checks that its value has to pass.
-/

import Forms.Schema.Kind

namespace Forms

/-- A declaration names a type of check and gives its parameters. -/
structure Declaration where
  id : String
  params : Json
deriving DecidableEq, Repr

/-- A declaration without parameters. -/
def Declaration.bare (id : String) : Declaration := ⟨id, .null⟩

/-- The children of a field keep the order of their declaration. The items stand for every element
of an array. -/
structure Schema where
  kind : Kind
  label : Option String := none
  widget : Option String := none
  hint : Option String := none
  checks : List Declaration := []
  children : List (String × Schema) := []
  items : Option Schema := none
deriving Repr

namespace Schema

mutual

/-- Equality of schemas is decidable, field by field. -/
def decideEqual : (left right : Schema) → Decidable (left = right)
  | ⟨kind, label, widget, hint, checks, children, items⟩,
      ⟨kind', label', widget', hint', checks', children', items'⟩ =>
      match decideEqualChildren children children', decideEqualItems items items' with
      | isTrue sameChildren, isTrue sameItems =>
          if same : kind = kind' ∧ label = label' ∧ widget = widget' ∧ hint = hint' ∧
              checks = checks' then
            isTrue (by
              obtain ⟨rfl, rfl, rfl, rfl, rfl⟩ := same
              rw [sameChildren, sameItems])
          else isFalse (by
            intro equal
            injection equal with first second third fourth fifth
            exact same ⟨first, second, third, fourth, fifth⟩)
      | isFalse differ, _ => isFalse (by
          intro equal
          injection equal
          contradiction)
      | _, isFalse differ => isFalse (by
          intro equal
          injection equal
          contradiction)
termination_by structural left => left

def decideEqualChildren : (left right : List (String × Schema)) → Decidable (left = right)
  | [], [] => isTrue rfl
  | [], _ :: _ | _ :: _, [] => isFalse (by simp)
  | left :: lefts, right :: rights =>
      match decideEqualChild left right, decideEqualChildren lefts rights with
      | isTrue head, isTrue tail => isTrue (by rw [head, tail])
      | isFalse head, _ => isFalse (by simp [head])
      | _, isFalse tail => isFalse (by simp [tail])
termination_by structural left => left

def decideEqualChild : (left right : String × Schema) → Decidable (left = right)
  | (leftKey, left), (rightKey, right) =>
      match left.decideEqual right with
      | isTrue fields =>
          if keys : leftKey = rightKey then isTrue (by rw [fields, keys])
          else isFalse (by simp [keys])
      | isFalse fields => isFalse (by simp [fields])
termination_by structural left => left

def decideEqualItems : (left right : Option Schema) → Decidable (left = right)
  | none, none => isTrue rfl
  | none, some _ | some _, none => isFalse (by simp)
  | some left, some right =>
      match left.decideEqual right with
      | isTrue equal => isTrue (by rw [equal])
      | isFalse differ => isFalse (by simp [differ])
termination_by structural left => left

end

instance : DecidableEq Schema := decideEqual

/-- An array whose elements all follow one schema. -/
def arrayOf (items : Schema) : Schema := { kind := .array, items := some items }

/-- The first child with the key answers for the key. -/
def child? (schema : Schema) (key : String) : Option Schema :=
  (schema.children.find? fun child => child.1 == key).map Prod.snd

def isScalar (schema : Schema) : Bool := schema.kind.isScalar

def withChild (schema : Schema) (key : String) (child : Schema) : Schema :=
  { schema with children := schema.children ++ [(key, child)] }

def withCheck (schema : Schema) (declaration : Declaration) : Schema :=
  { schema with checks := schema.checks ++ [declaration] }

def withLabel (schema : Schema) (label : String) : Schema := { schema with label := some label }

end Schema

end Forms
