/-
This file proves what the compilation of one element of an array has to do with the compiled form. Its
view is the item of the array moved to the place of the element, and every field has the rules that the
form has for it.
-/

import Forms.Proofs.Compiler.Acceptance
import Forms.Proofs.View.Relocation

namespace Forms

/-- The path of an entry with the declarations behind its rules. -/
def Rulebook.declared (entry : Path × List Rule) : Path × List Declaration :=
  (entry.1, entry.2.map Rule.declaration)

namespace Compiler

variable {compiler : Compiler} {base : Path} {schema : Schema} {compiled : Compiled}

theorem Accepts.of_within {inner outer : Schema} (inside : inner.Within outer)
    (accepts : compiler.Accepts outer) : compiler.Accepts inner := by
  induction inside with
  | self => exact accepts
  | child member _ inductionHypothesis =>
      cases accepts with
      | field _ _ children _ => exact inductionHypothesis (children _ member)
  | item held _ inductionHypothesis =>
      cases accepts with
      | field _ _ _ items => exact inductionHypothesis (items _ held)

/-- A field of a compiled form is the view of a schema within the schema of the form. -/
theorem exists_ofSchema_of_find? (compiles : (compiler.compile schema).result = .ok compiled)
    {path : Path} {node : View} (found : compiled.view.find? path = some node) :
    (∃ key inner, inner.Within schema ∧
        node = .ofSchema compiler.options path.generalize key inner) ∧
      ∀ inside ∈ node.nodes, inside ∈ compiled.view.nodes := by
  rw [(compileAt_ok compiles).1] at found ⊢
  exact View.follow?_ofSchema found

section Items

variable {path : Path} {node : View}

/-- A field shows an item when it declares a schema for its items. -/
theorem item_of_find? (compiles : (compiler.compile schema).result = .ok compiled)
    (found : compiled.view.find? path = some node) :
    node.item = node.itemSchema.map (View.ofSchema compiler.options path.generalize.item none) := by
  obtain ⟨⟨_, _, _, rfl⟩, _⟩ := exists_ofSchema_of_find? compiles found
  rw [View.ofSchema_item, View.ofSchema_itemSchema]

theorem within_of_find? (compiles : (compiler.compile schema).result = .ok compiled)
    (found : compiled.view.find? path = some node) {inner : Schema}
    (declares : node.itemSchema = some inner) : inner.Within schema := by
  obtain ⟨⟨_, _, within, rfl⟩, _⟩ := exists_ofSchema_of_find? compiles found
  rw [View.ofSchema_itemSchema] at declares
  exact Schema.Within.trans (.item declares .self) within

end Items

/-- When no two siblings share a key, the rulebook has exactly one entry for every field of the view,
with the declarations of the field. -/
theorem perm_declared (distinct : schema.DistinctKeys)
    (compiles : (compiler.compileAt base schema).result = .ok compiled) :
    (compiled.rules.toList.map Rulebook.declared).Perm (compiled.view.nodes.map View.declared) := by
  have distinctEntries : (compiled.rules.toList.map Rulebook.declared).Nodup := by
    refine List.Nodup.of_map Prod.fst ?_
    rw [List.map_map]
    exact compiled.rules.entries.keys_nodup
  have distinctNodes : (compiled.view.nodes.map View.declared).Nodup := by
    refine List.Nodup.of_map Prod.fst ?_
    rw [List.map_map, (compileAt_ok compiles).1]
    exact View.nodup_paths distinct
  refine (List.perm_ext_iff_of_nodup distinctEntries distinctNodes).mpr fun pair => ?_
  constructor
  · intro listed
    obtain ⟨entry, member, rfl⟩ := List.mem_map.mp listed
    obtain ⟨node, inside, samePath, sameChecks⟩ :=
      exists_node_of_get? compiles (Rulebook.get?_eq_some_iff.mpr member)
    exact List.mem_map.mpr ⟨node, inside, Prod.ext samePath sameChecks⟩
  · intro listed
    obtain ⟨node, inside, rfl⟩ := List.mem_map.mp listed
    obtain ⟨rules, found, built⟩ := get?_of_mem_nodes distinct compiles inside
    exact List.mem_map.mpr ⟨(node.path, rules), Rulebook.get?_eq_some_iff.mp found,
      Prod.ext rfl (rules?_declarations built)⟩

/-- An element of an array of a compiled form, with the fragment that is compiled for it. -/
structure Element (compiler : Compiler) (schema : Schema) where
  form : Compiled
  /-- The array, and the position of the element in it. -/
  array : Path
  position : Nat
  /-- The field of the array, and the schema of its elements. -/
  node : View
  itemSchema : Schema
  fragment : Compiled
  compiles : (compiler.compile schema).result = .ok form
  found : form.view.find? array = some node
  declares : node.itemSchema = some itemSchema
  compilesItem : (compiler.compileItem array position itemSchema).result = .ok fragment

namespace Element

variable (element : compiler.Element schema)

/-- The place of the element. -/
def place : Path := element.array.index element.position

/-- The place that stands for every element. -/
def template : Path := element.array.generalize.item

/-- The view that stands for every element. -/
def item : View := .ofSchema compiler.options element.template none element.itemSchema

/-- The path of a field of every element becomes the path of the field of this element. -/
def move (path : Path) : Path := Path.rebase element.template element.place path

theorem node_path : element.node.path = element.array.generalize := by
  obtain ⟨⟨_, _, _, same⟩, _⟩ := exists_ofSchema_of_find? element.compiles element.found
  rw [same, View.ofSchema_path]

theorem itemSchema_within : element.itemSchema.Within schema :=
  within_of_find? element.compiles element.found element.declares

theorem node_item : element.node.item = some element.item := by
  rw [item_of_find? element.compiles element.found, element.declares]
  rfl

/-- The fields of every element are fields of the form. -/
theorem mem_form_nodes {inside : View} (member : inside ∈ element.item.nodes) :
    inside ∈ element.form.view.nodes := by
  obtain ⟨_, upward⟩ := exists_ofSchema_of_find? element.compiles element.found
  exact upward inside (View.mem_nodes.mpr (.inr (.inr ⟨_, element.node_item, member⟩)))

/-- The fragment shows the item of the array, moved to the place of the element. -/
theorem view_eq : element.fragment.view = element.item.mapPaths element.move := by
  have sameKeys : element.template.keyNames = element.place.keyNames := by
    have template := Path.keyNames_extend element.array.generalize [.item]
    have place := Path.keyNames_extend element.array [.index element.position]
    rw [Path.keyNames_generalize] at template
    exact template.trans place.symm
  have moved : (View.ofSchema compiler.options (element.template.extend []) none
      element.itemSchema).mapPaths (Path.rebase element.template element.place) =
        View.ofSchema compiler.options (element.place.extend []) none element.itemSchema :=
    View.mapPaths_ofSchema sameKeys element.itemSchema []
  rw [Path.extend_nil, Path.extend_nil] at moved
  rw [(compileAt_ok element.compilesItem).1]
  exact moved.symm

/-- The fields of the fragment are the fields of every element, moved to the place of the element. -/
theorem mem_fragment_nodes_iff {node : View} :
    node ∈ element.fragment.view.nodes ↔
      ∃ inside ∈ element.item.nodes, inside.mapPaths element.move = node := by
  rw [view_eq, item, View.nodes_mapPaths]
  exact List.mem_map

/-- A field keeps the steps below the template when it is moved. They name no position. -/
theorem exists_steps {inside : View} (member : inside ∈ element.item.nodes) :
    ∃ steps, inside.path = element.template.extend steps ∧
      element.move inside.path = element.place.extend steps ∧ steps.map Step.generalize = steps := by
  have valid := (compileAt_ok element.compilesItem).2.1
  obtain ⟨steps, path, declared⟩ := View.declared_of_mem_nodes valid member
  have same : inside.path = element.template.extend steps := congrArg Path.mk path
  have general : (Path.mk steps).IsGeneral := Path.isGeneral_of_isDeclared declared
  exact ⟨steps, same, by rw [same, move, Path.rebase_extend],
    congrArg Path.steps (Path.generalize_eq_self general)⟩

theorem generalize_place : element.place.generalize = element.template :=
  Path.generalize_extend element.array [.index element.position]

/-- A moved field has the path of the field as its general form. -/
theorem generalize_move {inside : View} (member : inside ∈ element.item.nodes) :
    (element.move inside.path).generalize = inside.path := by
  obtain ⟨steps, same, moved, general⟩ := element.exists_steps member
  rw [moved, Path.generalize_extend, generalize_place, general, same]

/-- A field has the same rules in the fragment and in the form. -/
theorem exists_rules (distinct : schema.DistinctKeys) {inside : View}
    (member : inside ∈ element.item.nodes) :
    ∃ rules, element.fragment.rules.get? (element.move inside.path) = some rules ∧
      element.form.rules.get? inside.path = some rules := by
  have moved : inside.mapPaths element.move ∈ element.fragment.view.nodes :=
    element.mem_fragment_nodes_iff.mpr ⟨inside, member, rfl⟩
  obtain ⟨rules, found, built⟩ := get?_of_mem_nodes
    (element.itemSchema_within.distinctKeys distinct) element.compilesItem moved
  obtain ⟨formRules, formFound, formBuilt⟩ :=
    get?_of_mem_nodes distinct element.compiles (element.mem_form_nodes member)
  rw [View.mapPaths_checks, formBuilt, Option.some.injEq] at built
  rw [View.mapPaths_path] at found
  exact ⟨rules, found, built ▸ formFound⟩

/-- Every entry of the fragment is governed by the entry of the form for the general form of its path,
with the same rules. -/
theorem resolve?_of_mem (distinct : schema.DistinctKeys) {entry : Path × List Rule}
    (member : entry ∈ element.fragment.rules.toList) :
    element.form.rules.resolve? entry.1 = some (entry.1.generalize, entry.2) := by
  have found := Rulebook.get?_eq_some_iff.mpr member
  obtain ⟨node, inFragment, samePath, _⟩ := exists_node_of_get? element.compilesItem found
  obtain ⟨inside, inItem, rfl⟩ := element.mem_fragment_nodes_iff.mp inFragment
  obtain ⟨rules, fragmentRules, formRules⟩ := element.exists_rules distinct inItem
  rw [View.mapPaths_path] at samePath
  rw [samePath, found, Option.some.injEq] at fragmentRules
  rw [(isGeneral_of_compile element.compiles).resolve?_eq, ← samePath, element.generalize_move inItem,
    formRules, fragmentRules]
  rfl

end Element

end Compiler

end Forms
