/-
This file proves that the two halves of a compiled form name the same fields: the rulebook resolves a
path exactly when the view has a field there, and both answers are about one field.
-/

import Forms.Proofs.Compiler.Fields
import Forms.Proofs.Path.Prefixes

namespace Forms

namespace Compiler

variable {compiler : Compiler} {base : Path} {schema : Schema} {compiled : Compiled}

/-- The paths of the rulebook are the paths of the fields of the view. -/
theorem mem_paths_compileAt (compiles : (compiler.compileAt base schema).result = .ok compiled)
    {path : Path} :
    path ∈ compiled.rules.paths ↔ ∃ node ∈ compiled.view.nodes, node.path = path := by
  have present : path ∈ compiled.rules.paths ↔
      (compiled.rules.declarations? path).isSome = true := by
    rw [Rulebook.paths, OrderedMap.mem_keys_iff, Rulebook.declarations?, Option.isSome_map]
    rfl
  rw [present, (compileAt_ok compiles).2.2 path, List.lookup_isSome_iff]
  constructor
  · rintro ⟨entry, listed, same⟩
    obtain ⟨node, member, rfl⟩ := List.mem_map.mp (List.mem_reverse.mp listed)
    exact ⟨node, member, (beq_iff_eq.mp same).symm⟩
  · rintro ⟨node, member, rfl⟩
    exact ⟨node.declared, List.mem_reverse.mpr (List.mem_map_of_mem member), beq_self_eq_true node.path⟩

/-- A field of the rulebook has the declarations of a field of the view with its path. -/
theorem exists_node_of_get? (compiles : (compiler.compileAt base schema).result = .ok compiled)
    {path : Path} {rules : List Rule} (found : compiled.rules.get? path = some rules) :
    ∃ node ∈ compiled.view.nodes, node.path = path ∧ node.checks = rules.map Rule.declaration := by
  have declared := (compileAt_ok compiles).2.2 path
  rw [Rulebook.declarations?, found, Option.map_some] at declared
  obtain ⟨before, after, split, _⟩ := List.lookup_eq_some_iff.mp declared.symm
  have member : (path, rules.map Rule.declaration) ∈ compiled.view.nodes.map View.declared := by
    rw [← List.mem_reverse, split]
    simp
  obtain ⟨node, listed, same⟩ := List.mem_map.mp member
  exact ⟨node, listed, congrArg Prod.fst same, congrArg Prod.snd same⟩

/-- Below the start of a form its paths consist of valid keys and placeholders. -/
theorem exists_steps_of_mem_paths (compiles : (compiler.compileAt base schema).result = .ok compiled)
    {path : Path} (member : path ∈ compiled.rules.paths) :
    ∃ steps, path = base.extend steps ∧ ∀ step ∈ steps, step.IsDeclared := by
  obtain ⟨node, listed, rfl⟩ := (mem_paths_compileAt compiles).mp member
  obtain ⟨sameView, valid, _⟩ := compileAt_ok compiles
  rw [sameView] at listed
  obtain ⟨steps, path, below⟩ := View.declared_of_mem_nodes valid listed
  exact ⟨steps, congrArg Path.mk path, below⟩

/-- The paths of a whole form consist of valid keys and placeholders. -/
theorem isDeclared_of_compile (compiles : (compiler.compile schema).result = .ok compiled) :
    compiled.rules.IsDeclared := by
  intro path member
  obtain ⟨steps, rfl, below⟩ := exists_steps_of_mem_paths compiles member
  exact below

/-- No path is an instance of two entries, wherever the form starts. -/
theorem isUnambiguous_of_compileAt (compiles : (compiler.compileAt base schema).result = .ok compiled) :
    compiled.rules.IsUnambiguous := by
  have unplaced {steps : List Step} (below : ∀ step ∈ steps, step.IsDeclared) :
      steps.map Step.generalize = steps := by
    have general : (Path.mk steps).IsGeneral := Path.isGeneral_of_isDeclared below
    exact congrArg Path.steps (Path.generalize_eq_self general)
  intro left leftMember right rightMember same
  obtain ⟨leftSteps, rfl, leftBelow⟩ := exists_steps_of_mem_paths compiles leftMember
  obtain ⟨rightSteps, rfl, rightBelow⟩ := exists_steps_of_mem_paths compiles rightMember
  rw [Path.generalize_extend, Path.generalize_extend, unplaced leftBelow, unplaced rightBelow] at same
  rw [List.append_cancel_left (congrArg Path.steps same)]

theorem isGeneral_of_compile (compiles : (compiler.compile schema).result = .ok compiled) :
    compiled.rules.IsGeneral :=
  (isDeclared_of_compile compiles).isGeneral

/-- A path leads to the one field whose path is the general form of the path. -/
theorem find?_compile (distinct : schema.DistinctKeys)
    (compiles : (compiler.compile schema).result = .ok compiled) {path : Path} {node : View} :
    compiled.view.find? path = some node ↔
      node ∈ compiled.view.nodes ∧ node.path = path.generalize := by
  rw [(compileAt_ok compiles).1]
  constructor
  · intro found
    obtain ⟨member, same⟩ := View.mem_nodes_of_follow? found
    exact ⟨member, congrArg Path.mk same⟩
  · rintro ⟨member, same⟩
    obtain ⟨steps, followed, longer⟩ := View.exists_follow?_of_mem_nodes distinct member
    have reached : path.steps.map Step.generalize = steps :=
      (congrArg Path.steps same).symm.trans longer
    rwa [View.find?, ← View.follow?_generalize, reached]

/-- The rulebook and the view of a form whose siblings have distinct keys answer every path alike: both
know the path or neither does, the entry and the field have one path and the same declarations, and no
other entry equals the path or has it as an instance. -/
theorem resolve?_agrees_find? (distinct : schema.DistinctKeys)
    (compiles : (compiler.compile schema).result = .ok compiled) (path : Path) :
    (compiled.rules.resolve? path).isSome = (compiled.view.find? path).isSome ∧
      (∀ entry node, compiled.rules.resolve? path = some entry →
        compiled.view.find? path = some node →
          entry.1 = node.path ∧ entry.2.map Rule.declaration = node.checks) ∧
      ∀ entry ∈ compiled.rules.toList, entry.1 = path ∨ path.isInstanceOf entry.1 = true →
        compiled.rules.resolve? path = some entry := by
  have general := isGeneral_of_compile compiles
  have resolved := general.resolve?_eq path
  refine ⟨Bool.eq_iff_iff.mpr ⟨fun known => ?_, fun known => ?_⟩, ?_, ?_⟩
  · obtain ⟨entry, found⟩ := Option.isSome_iff_exists.mp known
    obtain ⟨rules, found, _⟩ := Option.map_eq_some_iff.mp (resolved ▸ found)
    obtain ⟨node, member, same, _⟩ := exists_node_of_get? compiles found
    exact Option.isSome_iff_exists.mpr ⟨node, (find?_compile distinct compiles).mpr ⟨member, same⟩⟩
  · obtain ⟨node, found⟩ := Option.isSome_iff_exists.mp known
    obtain ⟨member, same⟩ := (find?_compile distinct compiles).mp found
    have listed := (mem_paths_compileAt compiles).mpr ⟨node, member, same⟩
    rw [resolved, Option.isSome_map]
    exact OrderedMap.mem_keys_iff.mp listed
  · intro entry node resolves found
    obtain ⟨rules, governs, rfl⟩ := Option.map_eq_some_iff.mp (resolved ▸ resolves)
    obtain ⟨other, listed, samePath, sameChecks⟩ := exists_node_of_get? compiles governs
    obtain rfl : other = node := Option.some.inj
      (((find?_compile distinct compiles).mpr ⟨listed, samePath⟩).symm.trans found)
    exact ⟨samePath.symm, sameChecks.symm⟩
  · exact fun entry member governs => general.resolve?_eq_some_iff.mpr ⟨member, governs⟩

end Compiler

/-- A text that is asked for twice. -/
def requiredText : Schema := { kind := .string, checks := [.bare "required", .bare "required"] }

/-- A list of contacts with an owner. The list has children and items at once. -/
def contacts : Schema where
  kind := .array
  children := [("owner", requiredText)]
  items := some {
    kind := .object
    children := [("name", requiredText), ("phones", .arrayOf requiredText)] }

def contactsCompiler : Compiler where
  registry := Registry.empty.register "required" StandardCheck.requiredMaker
  catalog := .empty
  options := .standard

def contactsForm : Compiled := ((contactsCompiler.compile contacts).result.toOption).get (by decide)

theorem contacts_compile : (contactsCompiler.compile contacts).result = .ok contactsForm := rfl

theorem contacts_distinctKeys : contacts.DistinctKeys := by decide

/-- Any phone of the first contact is one field of the form. -/
theorem resolve?_contacts_phone :
    contacts.DistinctKeys ∧ (contactsCompiler.compile contacts).result = .ok contactsForm ∧
      (contactsForm.view.find? ⟨[.index 0, .key "phones", .item]⟩).isSome = true ∧
      ∀ entry node, contactsForm.rules.resolve? ⟨[.index 0, .key "phones", .item]⟩ = some entry →
        contactsForm.view.find? ⟨[.index 0, .key "phones", .item]⟩ = some node →
          entry.1 = node.path := by
  obtain ⟨alike, same, _⟩ := Compiler.resolve?_agrees_find? contacts_distinctKeys contacts_compile
    ⟨[.index 0, .key "phones", .item]⟩
  exact ⟨contacts_distinctKeys, contacts_compile, alike.symm.trans (by decide),
    fun entry node resolved found => (same entry node resolved found).1⟩

end Forms
