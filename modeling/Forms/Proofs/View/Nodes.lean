/-
This file proves where the fields of a view lie. A field is found by the steps of its path, and when no
two siblings share a key it is the only field with its path.
-/

import Forms.Proofs.Path.General
import Forms.Proofs.Schema.Keys
import Forms.View

namespace Forms

namespace View

variable {options : RenderOptions} {base : Path} {key : Option String}

@[simp] theorem ofSchema_path (schema : Schema) :
    (ofSchema options base key schema).path = base := by
  cases schema; rfl

@[simp] theorem ofSchema_key (schema : Schema) : (ofSchema options base key schema).key = key := by
  cases schema; rfl

@[simp] theorem ofSchema_kind (schema : Schema) :
    (ofSchema options base key schema).kind = schema.kind := by
  cases schema; rfl

@[simp] theorem ofSchema_checks (schema : Schema) :
    (ofSchema options base key schema).checks = schema.checks := by
  cases schema; rfl

/-- The view of a child has the key of the child, and its path goes on from the path of the parent. -/
def childView (options : RenderOptions) (base : Path) (child : String × Schema) : View :=
  ofSchema options (base.key child.1) (some child.1) child.2

theorem ofChildren_eq_map (children : List (String × Schema)) :
    ofChildren options base children = children.map (childView options base) := by
  induction children with
  | nil => rfl
  | cons child children inductionHypothesis =>
      cases child
      rw [ofChildren, List.map_cons, inductionHypothesis]
      rfl

@[simp] theorem ofSchema_children (schema : Schema) :
    (ofSchema options base key schema).children = schema.children.map (childView options base) := by
  cases schema
  exact ofChildren_eq_map _

@[simp] theorem ofSchema_item (schema : Schema) :
    (ofSchema options base key schema).item =
      schema.items.map (ofSchema options base.item none) := by
  obtain ⟨_, _, _, _, _, _, items⟩ := schema
  cases items <;> rfl

@[simp] theorem ofSchema_itemSchema (schema : Schema) :
    (ofSchema options base key schema).itemSchema = schema.items := by
  cases schema; rfl

theorem childNodes_eq_flatMap (children : List View) : childNodes children = children.flatMap nodes := by
  induction children with
  | nil => rfl
  | cons child children inductionHypothesis =>
      simp only [childNodes, List.flatMap_cons, inductionHypothesis]

/-- A field comes before the fields of its children, and those of its item come last. -/
theorem nodes_eq (view : View) :
    view.nodes = view :: (view.children.flatMap nodes ++ view.item.toList.flatMap nodes) := by
  obtain ⟨_, _, _, _, _, _, _, children, item, _⟩ := view
  rw [nodes, childNodes_eq_flatMap]
  cases item <;> simp [itemNodes]

/-- The fields of the view of a schema, by the views of its children and its items. -/
theorem nodes_ofSchema (schema : Schema) :
    (ofSchema options base key schema).nodes =
      ofSchema options base key schema ::
        ((schema.children.flatMap fun child => (childView options base child).nodes) ++
          schema.items.toList.flatMap fun item => (ofSchema options base.item none item).nodes) := by
  rw [nodes_eq, ofSchema_children, ofSchema_item, List.flatMap_map]
  cases schema.items <;> simp

theorem mem_nodes {view node : View} :
    node ∈ view.nodes ↔
      node = view ∨ (∃ child ∈ view.children, node ∈ child.nodes) ∨
        ∃ item ∈ view.item, node ∈ item.nodes := by
  rw [nodes_eq]
  simp

/-- Positions and placeholders lead to the same field. -/
theorem follow?_generalize (view : View) (steps : List Step) :
    view.follow? (steps.map Step.generalize) = view.follow? steps := by
  induction steps generalizing view with
  | nil => rfl
  | cons step steps inductionHypothesis =>
      have same : view.enter? step.generalize = view.enter? step := by cases step <;> rfl
      rw [List.map_cons, follow?, follow?, same]
      exact congrArg _ (funext inductionHypothesis)

theorem child?_ofSchema (schema : Schema) (name : String) :
    (ofSchema options base key schema).child? name =
      (schema.children.find? fun child => child.1 == name).map (childView options base) := by
  rw [child?, ofSchema_children, List.find?_map]
  simp [Function.comp_def, childView]

/-- A step leads to the view of a child or of the item, and the step extends the path with the position
left open. -/
theorem enter?_ofSchema {schema : Schema} {step : Step} {next : View}
    (entered : (ofSchema options base key schema).enter? step = some next) :
    (∃ nextKey inner, inner.Within schema ∧
        next = ofSchema options (base.push step.generalize) nextKey inner) ∧
      ∀ node ∈ next.nodes, node ∈ (ofSchema options base key schema).nodes := by
  have throughItem (path : Path) (item : (ofSchema options base key schema).item = some next)
      (same : base.item = path) :
      (∃ nextKey inner, inner.Within schema ∧ next = ofSchema options path nextKey inner) ∧
        ∀ node ∈ next.nodes, node ∈ (ofSchema options base key schema).nodes := by
    obtain ⟨child, held, rfl⟩ := Option.map_eq_some_iff.mp (ofSchema_item schema ▸ item)
    exact ⟨⟨none, child, .item held .self, by rw [same]⟩, fun node inside =>
      mem_nodes.mpr (.inr (.inr ⟨_, item, inside⟩))⟩
  cases step with
  | key name =>
      rw [enter?, child?_ofSchema] at entered
      obtain ⟨child, found, rfl⟩ := Option.map_eq_some_iff.mp entered
      obtain rfl : child.1 = name := by simpa using List.find?_some found
      have declared := List.mem_of_find?_eq_some found
      have listed := List.mem_map_of_mem (f := childView options base) declared
      exact ⟨⟨some child.1, child.2, .child declared .self, rfl⟩, fun node inside =>
        mem_nodes.mpr (.inr (.inl ⟨_, by rwa [ofSchema_children], inside⟩))⟩
  | index position => exact throughItem _ entered rfl
  | item => exact throughItem _ entered rfl

/-- Steps lead to the view of a field of the schema. Its path has the steps with the positions left
open. -/
theorem follow?_ofSchema {schema : Schema} {steps : List Step} {node : View}
    (followed : (ofSchema options base key schema).follow? steps = some node) :
    (∃ nodeKey inner, inner.Within schema ∧
        node = ofSchema options ⟨base.steps ++ steps.map Step.generalize⟩ nodeKey inner) ∧
      ∀ inside ∈ node.nodes, inside ∈ (ofSchema options base key schema).nodes := by
  induction steps generalizing base key schema with
  | nil =>
      cases followed
      exact ⟨⟨key, schema, .self, by simp⟩, fun _ inside => inside⟩
  | cons step steps inductionHypothesis =>
      obtain ⟨next, entered, onward⟩ := Option.bind_eq_some_iff.mp followed
      obtain ⟨⟨nextKey, child, within, rfl⟩, upward⟩ := enter?_ofSchema entered
      obtain ⟨⟨nodeKey, inner, deeper, rfl⟩, below⟩ := inductionHypothesis onward
      exact ⟨⟨nodeKey, inner, deeper.trans within, by simp [Path.push]⟩,
        fun node inside => upward node (below node inside)⟩

/-- The field that some steps lead to is one of the fields. -/
theorem mem_nodes_of_follow? {schema : Schema} {steps : List Step} {node : View}
    (followed : (ofSchema options base key schema).follow? steps = some node) :
    node ∈ (ofSchema options base key schema).nodes ∧
      node.path.steps = base.steps ++ steps.map Step.generalize := by
  obtain ⟨⟨_, _, _, rfl⟩, below⟩ := follow?_ofSchema followed
  exact ⟨below _ (mem_nodes.mpr (.inl rfl)), by rw [ofSchema_path]⟩

/-- When no two siblings share a key, every field is found by the steps of its path. -/
theorem exists_follow?_of_mem_nodes {schema : Schema} (distinct : schema.DistinctKeys) {node : View}
    (member : node ∈ (ofSchema options base key schema).nodes) :
    ∃ steps, (ofSchema options base key schema).follow? steps = some node ∧
      node.path.steps = base.steps ++ steps := by
  induction distinct generalizing base key with
  | @field schema keys children items childHypothesis itemHypothesis =>
      rcases mem_nodes.mp member with rfl | ⟨view, listed, inside⟩ | ⟨view, item, inside⟩
      · exact ⟨[], rfl, by simp⟩
      · rw [ofSchema_children] at listed
        obtain ⟨child, declared, rfl⟩ := List.mem_map.mp listed
        obtain ⟨steps, onward, path⟩ := childHypothesis child declared inside
        refine ⟨.key child.1 :: steps, ?_, by simpa [Path.key, Path.push] using path⟩
        rw [follow?, enter?, child?_ofSchema, Schema.find?_key_of_mem keys declared]
        exact onward
      · obtain ⟨child, held, rfl⟩ := Option.map_eq_some_iff.mp (ofSchema_item schema ▸ item)
        obtain ⟨steps, onward, path⟩ := itemHypothesis child held inside
        refine ⟨.item :: steps, ?_, by simpa [Path.item, Path.push] using path⟩
        have entered : (ofSchema options base key schema).enter? .item = some _ := item
        rw [follow?, entered]
        exact onward

/-- Every field of the view shows a field of the schema. -/
theorem exists_within_of_mem_nodes {schema : Schema} {node : View}
    (member : node ∈ (ofSchema options base key schema).nodes) :
    ∃ inner : Schema, inner.Within schema ∧ node.checks = inner.checks := by
  induction schema using Schema.fieldInduction generalizing base key with
  | field schema childHypothesis itemHypothesis =>
      rcases mem_nodes.mp member with rfl | ⟨view, listed, inside⟩ | ⟨view, item, inside⟩
      · exact ⟨schema, .self, ofSchema_checks schema⟩
      · rw [ofSchema_children] at listed
        obtain ⟨child, declared, rfl⟩ := List.mem_map.mp listed
        obtain ⟨inner, within, same⟩ := childHypothesis child declared inside
        exact ⟨inner, .child declared within, same⟩
      · obtain ⟨child, held, rfl⟩ := Option.map_eq_some_iff.mp (ofSchema_item schema ▸ item)
        obtain ⟨inner, within, same⟩ := itemHypothesis child held inside
        exact ⟨inner, .item held within, same⟩

/-- Two fields with one path are the same field when no two siblings share a key. -/
theorem eq_of_path_eq {schema : Schema} (distinct : schema.DistinctKeys) {left right : View}
    (leftMember : left ∈ (ofSchema options base key schema).nodes)
    (rightMember : right ∈ (ofSchema options base key schema).nodes) (same : left.path = right.path) :
    left = right := by
  obtain ⟨leftSteps, leftFound, leftPath⟩ := exists_follow?_of_mem_nodes distinct leftMember
  obtain ⟨rightSteps, rightFound, rightPath⟩ := exists_follow?_of_mem_nodes distinct rightMember
  obtain rfl : leftSteps = rightSteps :=
    List.append_cancel_left (leftPath.symm.trans ((congrArg Path.steps same).trans rightPath))
  exact Option.some.inj (leftFound.symm.trans rightFound)

/-- The paths of all fields go on from the path of the view. -/
theorem exists_steps_of_mem_paths {schema : Schema} (distinct : schema.DistinctKeys) {path : Path}
    (listed : path ∈ (ofSchema options base key schema).nodes.map View.path) :
    ∃ steps, path.steps = base.steps ++ steps := by
  obtain ⟨node, member, rfl⟩ := List.mem_map.mp listed
  obtain ⟨steps, _, path⟩ := exists_follow?_of_mem_nodes distinct member
  exact ⟨steps, path⟩

/-- When no two siblings share a key, every field of the listing has a path of its own. -/
theorem nodup_paths {schema : Schema} (distinct : schema.DistinctKeys) :
    ((ofSchema options base key schema).nodes.map View.path).Nodup := by
  induction distinct generalizing base key with
  | @field schema keys children items childHypothesis itemHypothesis =>
      have listing : (ofSchema options base key schema).nodes.map View.path =
          base :: ((schema.children.flatMap fun child =>
              (childView options base child).nodes.map View.path) ++
            schema.items.toList.flatMap fun item =>
              (ofSchema options base.item none item).nodes.map View.path) := by
        rw [nodes_ofSchema, List.map_cons, ofSchema_path, List.map_append, List.map_flatMap,
          List.map_flatMap]
      have throughChild {path : Path} {child : String × Schema} (member : child ∈ schema.children)
          (listed : path ∈ (childView options base child).nodes.map View.path) :
          ∃ steps, path.steps = base.steps ++ .key child.1 :: steps := by
        obtain ⟨steps, path⟩ := exists_steps_of_mem_paths (children child member) listed
        exact ⟨steps, by simpa [Path.key, Path.push] using path⟩
      have throughItem {path : Path} {item : Schema} (held : item ∈ schema.items)
          (listed : path ∈ (ofSchema options base.item none item).nodes.map View.path) :
          ∃ steps, path.steps = base.steps ++ .item :: steps := by
        obtain ⟨steps, path⟩ := exists_steps_of_mem_paths (items item held) listed
        exact ⟨steps, by simpa [Path.item, Path.push] using path⟩
      rw [listing, List.nodup_cons, List.nodup_append]
      refine ⟨fun repeated => ?_, ?_, ?_, ?_⟩
      · have longer : ∃ step steps, base.steps = base.steps ++ step :: steps := by
          rcases List.mem_append.mp repeated with listed | listed
          · obtain ⟨child, member, listed⟩ := List.mem_flatMap.mp listed
            exact ⟨_, throughChild member listed⟩
          · obtain ⟨item, held, listed⟩ := List.mem_flatMap.mp listed
            exact ⟨_, throughItem (Option.mem_toList.mp held) listed⟩
        obtain ⟨step, steps, same⟩ := longer
        simpa using congrArg List.length same
      · refine List.pairwise_flatMap.mpr ⟨fun child member => childHypothesis child member, ?_⟩
        have apart : schema.children.Pairwise (·.1 ≠ ·.1) := List.pairwise_map.mp keys
        refine apart.imp_of_mem fun {first second} firstMember secondMember differ => ?_
        rintro path listedFirst other listedSecond rfl
        obtain ⟨_, firstPath⟩ := throughChild firstMember listedFirst
        obtain ⟨_, secondPath⟩ := throughChild secondMember listedSecond
        rw [firstPath, List.append_cancel_left_eq, List.cons.injEq, Step.key.injEq] at secondPath
        exact differ secondPath.1
      · cases held : schema.items with
        | none => simp
        | some item => simpa using itemHypothesis item held
      · rintro path inChildren other inItem rfl
        obtain ⟨child, member, listed⟩ := List.mem_flatMap.mp inChildren
        obtain ⟨item, held, listedBelow⟩ := List.mem_flatMap.mp inItem
        obtain ⟨_, childPath⟩ := throughChild member listed
        obtain ⟨_, itemPath⟩ := throughItem (Option.mem_toList.mp held) listedBelow
        rw [childPath, List.append_cancel_left_eq, List.cons.injEq] at itemPath
        cases itemPath.1

/-- Below the path of the view there are valid keys and placeholders only. -/
theorem declared_of_mem_nodes {schema : Schema} (valid : schema.ValidKeys) {node : View}
    (member : node ∈ (ofSchema options base key schema).nodes) :
    ∃ steps, node.path.steps = base.steps ++ steps ∧ ∀ step ∈ steps, step.IsDeclared := by
  induction valid generalizing base key with
  | @field schema keys _ _ childHypothesis itemHypothesis =>
      rcases mem_nodes.mp member with rfl | ⟨view, listed, inside⟩ | ⟨view, item, inside⟩
      · exact ⟨[], by simp, by simp⟩
      · rw [ofSchema_children] at listed
        obtain ⟨child, declared, rfl⟩ := List.mem_map.mp listed
        obtain ⟨steps, path, below⟩ := childHypothesis child declared inside
        exact ⟨.key child.1 :: steps, by simpa [Path.key, Path.push] using path,
          List.forall_mem_cons.mpr ⟨keys child declared, below⟩⟩
      · obtain ⟨child, held, rfl⟩ := Option.map_eq_some_iff.mp (ofSchema_item schema ▸ item)
        obtain ⟨steps, path, below⟩ := itemHypothesis child held inside
        exact ⟨.item :: steps, by simpa [Path.item, Path.push] using path,
          List.forall_mem_cons.mpr ⟨trivial, below⟩⟩

end View

end Forms
