/-
This file proves that the value of an untouched form has the shape of its view. Objects hold their
children, and no array has elements, so a template stands for nothing.
-/

import Forms.Proofs.Json.Members
import Forms.Proofs.Path.Instances
import Forms.Proofs.View.Nodes

namespace Forms

namespace Json

/-- A member is found by its key as its source is found in the list. -/
theorem findMember_map {Source : Type} (sources : List (String × Source))
    (value : String × Source → Json) (key : String) :
    findMember key (sources.map fun source => (source.1, value source)) =
      (sources.find? fun source => source.1 == key).map value := by
  induction sources with
  | nil => rfl
  | cons source sources inductionHypothesis =>
      rw [List.map_cons, findMember, inductionHypothesis]
      by_cases same : source.1 = key
      · rw [if_pos same, List.find?_cons_of_pos (by simpa using same), Option.map_some]
      · rw [if_neg same, List.find?_cons_of_neg (by simpa using same)]

end Json

namespace Path

variable {steps : List Step}

/-- A step that is no placeholder leads on to the expansions of the rest. -/
theorem expand_cons {step : Step} (concrete : step ≠ .item) (steps : List Step) (value : Option Json) :
    expand (step :: steps) value =
      (expand steps (value.bind (lookupStep · step))).map (step :: ·) := by
  cases step with
  | key name => rfl
  | index position => rfl
  | item => exact absurd rfl concrete

/-- Steps without placeholders stand for themselves, whatever the value. -/
theorem expand_of_concrete (concrete : .item ∉ steps) (value : Option Json) :
    expand steps value = [steps] := by
  induction steps generalizing value with
  | nil => rfl
  | cons step steps inductionHypothesis =>
      rw [List.mem_cons, not_or] at concrete
      rw [expand_cons (Ne.symm concrete.1), inductionHypothesis concrete.2]
      rfl

/-- A placeholder stands for nothing where there is no value. -/
theorem expand_none (template : .item ∈ steps) : expand steps none = [] := by
  induction steps with
  | nil => cases template
  | cons step steps inductionHypothesis =>
      by_cases placeholder : step = .item
      · rw [placeholder]
        rfl
      · have later : .item ∈ steps := (List.mem_cons.mp template).resolve_left (Ne.symm placeholder)
        rw [expand_cons placeholder, Option.bind_none, inductionHypothesis later]
        rfl

/-- The path has keys only. -/
def HasOnlyKeys (path : Path) : Prop := ∀ step ∈ path.steps, ∃ name, step = .key name

end Path

namespace View

/-- Every field above the path holds an object. -/
def ObjectsAbove (view : View) (path : Path) : Prop :=
  ∀ count < path.steps.length, ∀ above ∈ view.find? (path.take count), above.kind = .object

instance (view : View) (path : Path) : Decidable (view.ObjectsAbove path) :=
  inferInstanceAs (Decidable (∀ count < path.steps.length,
    ∀ above ∈ view.find? (path.take count), above.kind = .object))

theorem objectsAbove_nil (view : View) : view.ObjectsAbove ⟨[]⟩ :=
  fun _ less => absurd less (Nat.not_lt_zero _)

/-- The fields above a path are the first one and those above the rest of the path. -/
theorem objectsAbove_cons {view next : View} {step : Step} {steps : List Step}
    (entered : view.enter? step = some next) :
    view.ObjectsAbove ⟨step :: steps⟩ ↔ view.kind = .object ∧ next.ObjectsAbove ⟨steps⟩ := by
  have onward (count : Nat) :
      view.find? (Path.take ⟨step :: steps⟩ (count + 1)) = next.find? (Path.take ⟨steps⟩ count) := by
    rw [find?, Path.take, List.take_succ_cons, follow?, entered]
    rfl
  constructor
  · intro objects
    refine ⟨objects 0 (Nat.zero_lt_succ _) view rfl, fun count less above found => ?_⟩
    exact objects (count + 1) (Nat.succ_lt_succ less) above (by rwa [onward])
  · rintro ⟨first, later⟩ count less above found
    cases count with
    | zero =>
        cases found
        exact first
    | succ count =>
        rw [onward] at found
        exact later count (Nat.lt_of_succ_lt_succ less) above found

variable {options : RenderOptions} {base : Path} {key : Option String} {schema : Schema}

theorem emptyMembers_map (base : Path) (children : List (String × Schema)) :
    emptyMembers (children.map (childView options base)) =
      children.map fun child => (child.1, (childView options base child).emptyValue) := by
  induction children with
  | nil => rfl
  | cons child children inductionHypothesis =>
      rw [List.map_cons, emptyMembers, childView, ofSchema_key, inductionHypothesis]
      rfl

/-- An untouched object has a member for every child. -/
theorem emptyValue_ofSchema (keys : (schema.children.map Prod.fst).Nodup) :
    (ofSchema options base key schema).emptyValue =
      match schema.kind with
      | .object =>
          .object (schema.children.map fun child =>
            (child.1, (childView options base child).emptyValue))
      | kind => kind.emptyValue := by
  obtain ⟨kind, _, _, _, _, children, _⟩ := schema
  cases kind with
  | object =>
      have members : emptyMembers (ofChildren options base children) =
          children.map fun child => (child.1, (childView options base child).emptyValue) := by
        rw [ofChildren_eq_map, emptyMembers_map]
      have distinct : ((children.map fun child =>
          (child.1, (childView options base child).emptyValue)).map Prod.fst).Nodup := by
        simpa [Function.comp_def] using keys
      rw [ofSchema, emptyValue, members, Json.collectMembers_of_nodup distinct]
  | _ => rfl

/-- An untouched array has no elements. -/
theorem eq_nil_of_emptyValue (keys : (schema.children.map Prod.fst).Nodup) {items : List Json}
    (array : (ofSchema options base key schema).emptyValue = .array items) : items = [] := by
  rw [emptyValue_ofSchema keys] at array
  split at array
  · cases array
  · cases held : schema.kind <;> rw [held] at array <;> cases array
    rfl

/-- A key leads from an untouched object to its untouched child, and from no other field anywhere. -/
theorem member?_emptyValue (keys : (schema.children.map Prod.fst).Nodup) (name : String) :
    (ofSchema options base key schema).emptyValue.member? name =
      if schema.kind = .object then ((ofSchema options base key schema).child? name).map emptyValue
      else none := by
  rw [emptyValue_ofSchema keys, child?_ofSchema, Option.map_map]
  split
  · next held =>
      rw [if_pos held]
      exact Json.findMember_map schema.children _ name
  · next other =>
      rw [if_neg other]
      cases held : schema.kind with
      | object => exact absurd held other
      | _ => rfl

theorem member?_emptyValue_cases (keys : (schema.children.map Prod.fst).Nodup) (name : String) :
    (ofSchema options base key schema).emptyValue.member? name = none ∨
      ∃ child ∈ schema.children, (ofSchema options base key schema).emptyValue.member? name =
        some (childView options base child).emptyValue := by
  rw [member?_emptyValue keys, child?_ofSchema]
  split
  · cases found : schema.children.find? fun child => child.1 == name with
    | none => exact .inl rfl
    | some child => exact .inr ⟨child, List.mem_of_find?_eq_some found, rfl⟩
  · exact .inl rfl

/-- A position leads nowhere. -/
theorem item?_emptyValue (keys : (schema.children.map Prod.fst).Nodup) (position : Nat) :
    (ofSchema options base key schema).emptyValue.item? position = none := by
  cases array : (ofSchema options base key schema).emptyValue with
  | array items =>
      rw [eq_nil_of_emptyValue keys array]
      rfl
  | _ => rfl

/-- Below objects, keys lead to the untouched value of their field. Below any other field they lead
nowhere. -/
theorem lookupSteps_emptyValue (distinct : schema.DistinctKeys) {steps : List Step} {node : View}
    (onlyKeys : Path.HasOnlyKeys ⟨steps⟩)
    (followed : (ofSchema options base key schema).follow? steps = some node) :
    Path.lookupSteps steps (ofSchema options base key schema).emptyValue =
      if (ofSchema options base key schema).ObjectsAbove ⟨steps⟩ then some node.emptyValue
      else none := by
  induction steps generalizing base key schema with
  | nil =>
      cases followed
      rw [if_pos (objectsAbove_nil _)]
      rfl
  | cons step steps inductionHypothesis =>
      obtain ⟨keys, children, _⟩ := Schema.distinctKeys_iff.mp distinct
      obtain ⟨⟨name, rfl⟩, onlyKeysBelow⟩ := List.forall_mem_cons.mp onlyKeys
      obtain ⟨next, entered, onward⟩ := Option.bind_eq_some_iff.mp followed
      have found : (ofSchema options base key schema).child? name = some next := entered
      obtain ⟨child, listed, rfl⟩ := Option.map_eq_some_iff.mp (child?_ofSchema schema name ▸ found)
      have below : Path.lookupSteps steps (childView options base child).emptyValue =
          if (childView options base child).ObjectsAbove ⟨steps⟩ then some node.emptyValue else none :=
        inductionHypothesis (children child (List.mem_of_find?_eq_some listed)) onlyKeysBelow onward
      rw [Path.lookupSteps, Path.lookupStep, member?_emptyValue keys, found]
      simp only [objectsAbove_cons entered, ofSchema_kind]
      by_cases object : schema.kind = .object
      · simpa only [object, if_true, true_and, Option.map_some, Option.bind_some] using below
      · simp only [object, if_false, false_and, Option.bind_none]

/-- A placeholder stands for nothing in an untouched form. -/
theorem expand_emptyValue (distinct : schema.DistinctKeys) {steps : List Step}
    (template : .item ∈ steps) :
    Path.expand steps (some (ofSchema options base key schema).emptyValue) = [] := by
  induction steps generalizing base key schema with
  | nil => cases template
  | cons step steps inductionHypothesis =>
      obtain ⟨keys, children, _⟩ := Schema.distinctKeys_iff.mp distinct
      by_cases placeholder : step = .item
      · rw [placeholder]
        simp only [Path.expand]
        split
        · next array =>
            rw [eq_nil_of_emptyValue keys (Option.some.inj array)]
            rfl
        · rfl
      · have later : .item ∈ steps := (List.mem_cons.mp template).resolve_left (Ne.symm placeholder)
        have below : Path.expand steps
            (Path.lookupStep (ofSchema options base key schema).emptyValue step) = [] := by
          cases step with
          | key name =>
              rw [Path.lookupStep]
              rcases member?_emptyValue_cases keys name with nothing | ⟨child, member, reached⟩
              · rw [nothing, Path.expand_none later]
              · rw [reached]
                exact inductionHypothesis (children child member) later
          | index position =>
              rw [Path.lookupStep, item?_emptyValue keys, Path.expand_none later]
          | item => exact absurd rfl placeholder
        rw [Path.expand_cons placeholder, Option.bind_some, below, List.map_nil]

/-- In an untouched form a template stands for nothing, and any other path for itself. -/
theorem instances_emptyValue (distinct : schema.DistinctKeys) (path : Path) :
    path.instances (ofSchema options base key schema).emptyValue =
      if path.isTemplate then [] else [path] := by
  rw [Path.instances]
  cases template : path.isTemplate with
  | true =>
      have placed : .item ∈ path.steps := by
        by_contra absent
        rw [Path.isTemplate_eq_false_iff.mpr absent] at template
        cases template
      rw [expand_emptyValue distinct placed]
      rfl
  | false =>
      rw [Path.expand_of_concrete (Path.isTemplate_eq_false_iff.mp template)]
      rfl

end View

end Forms
