/-
This file proves what the rulebook of a compiled form or of a compiled element holds: for every path of
the view the declarations of the last field with the path, and nothing else.
-/

import Forms.Proofs.Compiler.Elements

namespace Forms

namespace Schema

mutual

/-- The declarations of all fields, each field before its children and the items last. -/
def declarations : Schema → List Declaration
  | ⟨_, _, _, _, checks, children, items⟩ =>
      checks ++ (childrenDeclarations children ++ itemDeclarations items)
termination_by structural schema => schema

def childrenDeclarations : List (String × Schema) → List Declaration
  | [] => []
  | child :: children => childDeclarations child ++ childrenDeclarations children
termination_by structural children => children

def childDeclarations : String × Schema → List Declaration
  | (_, schema) => schema.declarations
termination_by structural child => child

def itemDeclarations : Option Schema → List Declaration
  | none => []
  | some schema => schema.declarations
termination_by structural items => items

end

theorem childrenDeclarations_eq_flatMap (children : List (String × Schema)) :
    childrenDeclarations children = children.flatMap fun child => child.2.declarations := by
  induction children with
  | nil => rfl
  | cons child children inductionHypothesis =>
      cases child
      rw [childrenDeclarations, inductionHypothesis, List.flatMap_cons]
      rfl

theorem declarations_eq (schema : Schema) :
    schema.declarations =
      schema.checks ++ ((schema.children.flatMap fun child => child.2.declarations) ++
        schema.items.toList.flatMap declarations) := by
  obtain ⟨_, _, _, _, _, children, items⟩ := schema
  rw [declarations, childrenDeclarations_eq_flatMap]
  cases items <;> simp [itemDeclarations]

end Schema

namespace View

/-- The last field with the path in the listing of all fields. -/
def lastAt? (view : View) (path : Path) : Option View :=
  view.nodes.reverse.find? fun node => node.path == path

theorem lookup_declared (nodes : List View) (path : Path) :
    (nodes.map declared).lookup path = (nodes.find? fun node => node.path == path).map checks := by
  induction nodes with
  | nil => rfl
  | cons node nodes inductionHypothesis =>
      rw [List.map_cons, declared, List.lookup_cons, inductionHypothesis, List.find?_cons,
        Bool.beq_comm]
      cases node.path == path <;> rfl

/-- The fields of the view have the declarations of the schema, in the same order. -/
theorem checks_nodes (options : RenderOptions) (base : Path) (key : Option String) (schema : Schema) :
    (ofSchema options base key schema).nodes.flatMap checks = schema.declarations := by
  induction schema using Schema.fieldInduction generalizing base key with
  | field schema childHypothesis itemHypothesis =>
      have children : (schema.children.flatMap fun child =>
          (childView options base child).nodes.flatMap checks) =
            schema.children.flatMap fun child => child.2.declarations :=
        List.flatMap_congr fun child member =>
          childHypothesis child member (base.key child.1) (some child.1)
      have items : (schema.items.toList.flatMap fun item =>
          (ofSchema options base.item none item).nodes.flatMap checks) =
            schema.items.toList.flatMap Schema.declarations :=
        List.flatMap_congr fun item held => itemHypothesis item (Option.mem_toList.mp held) base.item none
      rw [nodes_ofSchema, List.flatMap_cons, ofSchema_checks, List.flatMap_append, List.flatMap_assoc,
        List.flatMap_assoc, children, items, Schema.declarations_eq]

end View

/-- The rules of a book are counted by their declarations. -/
theorem Rulebook.ruleCount_eq (book : Rulebook) :
    book.ruleCount = ((book.toList.map declared).flatMap Prod.snd).length := by
  rw [ruleCount]
  induction book.toList with
  | nil => rfl
  | cons entry entries inductionHypothesis =>
      rw [List.foldr_cons, inductionHypothesis, List.map_cons, List.flatMap_cons, List.length_append,
        declared, List.length_map]

namespace Compiler

variable {compiler : Compiler} {base : Path} {schema : Schema} {compiled : Compiled}

/-- When no two siblings share a key, the rulebook has as many paths as the view has fields. -/
theorem size_compileAt (distinct : schema.DistinctKeys)
    (compiles : (compiler.compileAt base schema).result = .ok compiled) :
    compiled.rules.size = compiled.view.nodes.length := by
  have listed := (perm_declared distinct compiles).length_eq
  rwa [List.length_map, List.length_map] at listed

/-- No declaration of the schema is lost then. -/
theorem ruleCount_compileAt (distinct : schema.DistinctKeys)
    (compiles : (compiler.compileAt base schema).result = .ok compiled) :
    compiled.rules.ruleCount = schema.declarations.length := by
  have counted := ((perm_declared distinct compiles).flatMap_right Prod.snd).length_eq
  have listing : (compiled.view.nodes.map View.declared).flatMap Prod.snd = schema.declarations := by
    rw [List.flatMap_map, (compileAt_ok compiles).1]
    exact View.checks_nodes compiler.options base none schema
  rw [Rulebook.ruleCount_eq, counted, listing]

/-- The rulebook of a form or of an element holds the declarations of the last field with each path of
the view. When no two siblings share a key, it has one entry for every field and one rule for every
declaration, and every field is found by the steps below the place of the view. -/
theorem rules_lastAt? (compiles : (compiler.compileAt base schema).result = .ok compiled) :
    compiled.view.path = base ∧
      (∀ path, path ∈ compiled.rules.paths ↔ ∃ node ∈ compiled.view.nodes, node.path = path) ∧
      (∀ path, compiled.rules.declarations? path = (compiled.view.lastAt? path).map View.checks) ∧
      (schema.DistinctKeys →
        compiled.rules.size = compiled.view.nodes.length ∧
        compiled.rules.ruleCount = schema.declarations.length ∧
        ∀ node ∈ compiled.view.nodes, ∃ steps, node.path = base.extend steps ∧
          compiled.view.find? ⟨steps⟩ = some node) := by
  obtain ⟨sameView, _, declared⟩ := compileAt_ok compiles
  refine ⟨?_, fun path => mem_paths_compileAt compiles, fun path => ?_, fun distinct => ?_⟩
  · rw [sameView, View.ofSchema_path]
  · rw [declared path, ← List.map_reverse, View.lookup_declared, View.lastAt?]
  · refine ⟨size_compileAt distinct compiles, ruleCount_compileAt distinct compiles, ?_⟩
    intro node member
    rw [sameView] at member ⊢
    obtain ⟨steps, followed, longer⟩ := View.exists_follow?_of_mem_nodes distinct member
    exact ⟨steps, congrArg Path.mk longer, followed⟩

end Compiler

/-- A person with two names under one key. Only the first one is required. -/
def renamed : Schema where
  kind := .object
  children := [("name", requiredText), ("name", { kind := .string }), ("mail", requiredText)]

def renamedPerson : Compiled :=
  ((contactsCompiler.compileItem ⟨[.key "people"]⟩ 3 renamed).result.toOption).get (by decide)

theorem renamed_compile :
    (contactsCompiler.compileItem ⟨[.key "people"]⟩ 3 renamed).result = .ok renamedPerson := rfl

/-- The second name wins in an element. The contacts have six fields, and three of them are asked for
twice. -/
theorem rules_renamed_contacts :
    (contactsCompiler.compileItem ⟨[.key "people"]⟩ 3 renamed).result = .ok renamedPerson ∧
      renamedPerson.rules.declarations? ⟨[.key "people", .index 3, .key "name"]⟩ = some [] ∧
      (contactsCompiler.compile contacts).result = .ok contactsForm ∧ contacts.DistinctKeys ∧
      contactsForm.rules.size = 6 ∧ contactsForm.rules.ruleCount = 6 := by
  have compilesItem : (contactsCompiler.compileAt (Path.mk [.key "people", .index 3]) renamed).result =
      .ok renamedPerson := renamed_compile
  obtain ⟨_, _, last, _⟩ := Compiler.rules_lastAt? compilesItem
  have compiles : (contactsCompiler.compileAt .root contacts).result = .ok contactsForm :=
    contacts_compile
  obtain ⟨_, _, _, whole⟩ := Compiler.rules_lastAt? compiles
  obtain ⟨size, count, _⟩ := whole contacts_distinctKeys
  refine ⟨renamed_compile, ?_, contacts_compile, contacts_distinctKeys, ?_, ?_⟩
  · rw [last]
    decide
  · rw [size]
    decide
  · rw [count]
    decide

end Forms
