/-
This file proves that extensions are conservative. A compilation asks its registry for nothing but the
makers of the declarations of the schema, so an extension that no declaration names changes nothing.
-/

import Forms.Proofs.Compiler.Contents

namespace Forms

namespace Registry

/-- The maker of a type is the last one that the extensions list for it, or else the maker of the
registry. -/
def extendedMaker? (registry : Registry) (extensions : List (String × Maker)) (id : String) :
    Option Maker :=
  (extensions.reverse.lookup id).or (registry.makers.get? id)

theorem get?_withExtensions (registry : Registry) (extensions : List (String × Maker)) (id : String) :
    (registry.withExtensions extensions).makers.get? id = registry.extendedMaker? extensions id :=
  registry.makers.get?_insertAll extensions id

theorem extendedMaker?_of_not_mem {registry : Registry} {extensions : List (String × Maker)} {id : String}
    (unused : id ∉ extensions.map Prod.fst) :
    registry.extendedMaker? extensions id = registry.makers.get? id := by
  have missing : extensions.reverse.lookup id = none := by
    rw [List.lookup_eq_none_iff]
    intro extension listed
    rw [bne_iff_ne]
    rintro rfl
    exact unused (List.mem_map_of_mem (List.mem_reverse.mp listed))
  rw [extendedMaker?, missing, Option.none_or]

/-- Two registries have the same maker for the type of a declaration, or neither has one. -/
def Agree (left right : Registry) (declaration : Declaration) : Prop :=
  left.makers.get? declaration.id = right.makers.get? declaration.id

end Registry

/-- The declarations of the field that a stop is about. -/
def Visit.declarations : Visit → List Declaration
  | .field _ checks => checks
  | .key _ _ => []

/-- The way through a schema meets the declarations of the schema. -/
theorem Schema.flatMap_visits (schema : Schema) (base : Path) :
    (schema.visits base).flatMap Visit.declarations = schema.declarations := by
  have fields (visits : List Visit) :
      visits.flatMap Visit.declarations = (visits.filterMap Visit.field?).flatMap Prod.snd := by
    induction visits with
    | nil => rfl
    | cons visit visits inductionHypothesis =>
        rw [List.flatMap_cons, inductionHypothesis]
        cases visit <;> rfl
  rw [fields, fields_visits .standard schema base none, List.flatMap_map]
  exact View.checks_nodes .standard base none schema

namespace Compiler

section Agreement

variable {left right : Registry} {catalog : Catalog} {options : RenderOptions}

/-- A check is obtained from its maker alone. -/
theorem obtain_congr {declaration : Declaration} (agree : left.Agree right declaration) (path : Path)
    (workshop : Workshop) :
    (Compiler.mk left catalog options).obtain path declaration workshop =
      (Compiler.mk right catalog options).obtain path declaration workshop := by
  have sameBuild : left.build catalog path declaration = right.build catalog path declaration := by
    rw [Registry.build, agree, Registry.build]
  have sameKnown : left.contains declaration.id = right.contains declaration.id := by
    rw [Registry.contains, OrderedMap.contains, agree, Registry.contains, OrderedMap.contains]
  rw [obtain, sameBuild, sameKnown, obtain]

theorem rulesFor_congr {declarations : List Declaration}
    (agree : ∀ declaration ∈ declarations, left.Agree right declaration) (path : Path)
    (workshop : Workshop) :
    (Compiler.mk left catalog options).rulesFor path declarations workshop =
      (Compiler.mk right catalog options).rulesFor path declarations workshop := by
  induction declarations generalizing workshop with
  | nil => rfl
  | cons declaration declarations inductionHypothesis =>
      obtain ⟨first, later⟩ := List.forall_mem_cons.mp agree
      simp only [rulesFor, obtain_congr first, inductionHypothesis later]

theorem stop_congr {visit : Visit}
    (agree : ∀ declaration ∈ visit.declarations, left.Agree right declaration) (book : Rulebook)
    (workshop : Workshop) :
    (Compiler.mk left catalog options).stop visit book workshop =
      (Compiler.mk right catalog options).stop visit book workshop := by
  cases visit with
  | field path checks =>
      have alike : ∀ declaration ∈ checks, left.Agree right declaration := agree
      simp only [stop, rulesFor_congr alike]
  | key parent name => rfl

/-- One step after the other, the way is the same under both registries. -/
theorem walk_congr {visits : List Visit}
    (agree : ∀ declaration ∈ visits.flatMap Visit.declarations, left.Agree right declaration)
    (book : Rulebook) (workshop : Workshop) :
    (Compiler.mk left catalog options).walk visits book workshop =
      (Compiler.mk right catalog options).walk visits book workshop := by
  induction visits generalizing book workshop with
  | nil => rfl
  | cons visit visits inductionHypothesis =>
      rw [List.flatMap_cons, List.forall_mem_append] at agree
      simp only [walk, stop_congr agree.1, inductionHypothesis agree.2]

/-- A compilation depends on the makers of the declarations of its schema only. -/
theorem compileAt_congr {schema : Schema}
    (agree : ∀ declaration ∈ schema.declarations, left.Agree right declaration) (base : Path) :
    (Compiler.mk left catalog options).compileAt base schema =
      (Compiler.mk right catalog options).compileAt base schema := by
  rw [← schema.flatMap_visits base] at agree
  rw [compileAt, walk_congr agree, compileAt]

end Agreement

/-- The last extension with a name wins, and extensions that no field uses change nothing. A form or an
element compiles with extensions as it does with any registry that has, for the declarations of the
schema, the last makers that the extensions list for them or else the makers of the first registry: to
the same view and rules with the same checks, or to the same fault, with the same calls of makers. When
the extensions name none of the declarations, it compiles as it does without them. -/
theorem compileAt_withExtensions (registry : Registry) (extensions : List (String × Maker))
    (catalog : Catalog) (options : RenderOptions) (base : Path) (schema : Schema) :
    let extended : Compiler := ⟨registry.withExtensions extensions, catalog, options⟩
    (∀ id, extended.registry.makers.get? id = registry.extendedMaker? extensions id) ∧
      (∀ other : Registry,
        (∀ declaration ∈ schema.declarations,
          other.makers.get? declaration.id = registry.extendedMaker? extensions declaration.id) →
        extended.compileAt base schema = (Compiler.mk other catalog options).compileAt base schema) ∧
      ((∀ declaration ∈ schema.declarations, declaration.id ∉ extensions.map Prod.fst) →
        extended.compileAt base schema =
          (Compiler.mk registry catalog options).compileAt base schema) := by
  intro extended
  have makers (id : String) := registry.get?_withExtensions extensions id
  have congruent (other : Registry)
      (known : ∀ declaration ∈ schema.declarations,
        other.makers.get? declaration.id = registry.extendedMaker? extensions declaration.id) :
      extended.compileAt base schema = (Compiler.mk other catalog options).compileAt base schema :=
    compileAt_congr (fun declaration member =>
      (makers declaration.id).trans (known declaration member).symm) base
  refine ⟨makers, congruent, fun unused => congruent registry fun declaration member => ?_⟩
  exact (Registry.extendedMaker?_of_not_mem (unused declaration member)).symm

end Compiler

/-- A rule whose check never passes. -/
def refusingRule (message : String) : Rule := ⟨.bare "required", fun _ _ => .violation message⟩

/-- A maker of checks that never pass. -/
def refusal (message : String) : Maker := fun _ _ => .ok (refusingRule message).check

/-- The contacts declare nothing but required texts. They compile as before when another type is added. Of
two new makers for required texts the second one is used, and its checks are those of the owner, who is
declared to be required twice. -/
theorem compileAt_contacts_extended :
    let registry := contactsCompiler.registry
    let refusing : Compiler :=
      ⟨registry.withExtensions [("required", refusal "No"), ("required", refusal "Never")], .empty, .standard⟩
    (∀ declaration ∈ contacts.declarations, declaration.id ∉ ["shout"]) ∧
      (Compiler.mk (registry.withExtensions [("shout", refusal "Louder")]) .empty .standard).compileAt
          .root contacts = contactsCompiler.compile contacts ∧
      refusing.compileAt .root contacts =
        (Compiler.mk (.register .empty "required" (refusal "Never")) .empty .standard).compileAt
          .root contacts ∧
      ∃ compiled, (refusing.compileAt .root contacts).result = .ok compiled ∧
        compiled.rules.get? ⟨[.key "owner"]⟩ = some [refusingRule "Never", refusingRule "Never"] := by
  intro registry refusing
  have declared : ∀ declaration ∈ contacts.declarations, declaration.id = "required" := by decide
  have unused : ∀ declaration ∈ contacts.declarations, declaration.id ∉ ["shout"] := by decide
  obtain ⟨_, _, conservative⟩ := Compiler.compileAt_withExtensions registry
    [("shout", refusal "Louder")] .empty .standard .root contacts
  obtain ⟨_, lastWins, _⟩ := Compiler.compileAt_withExtensions registry
    [("required", refusal "No"), ("required", refusal "Never")] .empty .standard .root contacts
  have same : refusing.compileAt .root contacts =
      (Compiler.mk (.register .empty "required" (refusal "Never")) .empty .standard).compileAt
        .root contacts := by
    refine lastWins _ fun declaration member => ?_
    rw [declared declaration member]
    rfl
  refine ⟨unused, conservative unused, same, ?_⟩
  rw [same]
  exact ⟨_, rfl, rfl⟩

end Forms
