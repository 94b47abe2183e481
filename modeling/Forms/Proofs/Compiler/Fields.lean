/-
This file proves what a compiled form consists of. Its view is the view of the schema, and its rulebook
holds the declarations of the fields of the view, where the last field with a path wins.
-/

import Forms.Compiler
import Forms.Proofs.Rulebook.Resolution
import Forms.Proofs.View.Nodes

namespace Forms

/-- The field that a stop is about, with its declarations. -/
def Visit.field? : Visit → Option (Path × List Declaration)
  | .field path checks => some (path, checks)
  | .key _ _ => none

/-- The path of a field with its declarations. -/
def View.declared (view : View) : Path × List Declaration := (view.path, view.checks)

/-- The declarations behind the rules of a path. -/
def Rulebook.declarations? (book : Rulebook) (path : Path) : Option (List Declaration) :=
  (book.get? path).map (List.map Rule.declaration)

/-- The fields of the view of a schema with their declarations, by its children and its items. -/
theorem View.declared_nodes_ofSchema (options : RenderOptions) (base : Path) (key : Option String)
    (schema : Schema) :
    (ofSchema options base key schema).nodes.map declared =
      (base, schema.checks) ::
        ((schema.children.flatMap fun child => (childView options base child).nodes.map declared) ++
          schema.items.toList.flatMap fun item =>
            (ofSchema options base.item none item).nodes.map declared) := by
  rw [nodes_ofSchema, List.map_cons, List.map_append, List.map_flatMap, List.map_flatMap, declared,
    ofSchema_path, ofSchema_checks]

namespace Schema

theorem childrenVisits_eq_flatMap (parent : Path) (children : List (String × Schema)) :
    childrenVisits parent children =
      children.flatMap fun child => .key parent child.1 :: child.2.visits (parent.key child.1) := by
  induction children with
  | nil => rfl
  | cons child children inductionHypothesis =>
      cases child
      rw [childrenVisits, inductionHypothesis, List.flatMap_cons]
      rfl

/-- A field is visited before its children, each after its key, and the items are visited last. -/
theorem visits_eq (schema : Schema) (path : Path) :
    schema.visits path =
      .field path schema.checks ::
        ((schema.children.flatMap fun child =>
          .key path child.1 :: child.2.visits (path.key child.1)) ++
          schema.items.toList.flatMap (visits path.item)) := by
  obtain ⟨_, _, _, _, _, children, items⟩ := schema
  rw [visits, childrenVisits_eq_flatMap]
  cases items <;> simp [itemVisits]

/-- The way through a schema meets the fields of its view in order. -/
theorem fields_visits (options : RenderOptions) (schema : Schema) (base : Path)
    (key : Option String) :
    (schema.visits base).filterMap Visit.field? =
      (View.ofSchema options base key schema).nodes.map View.declared := by
  induction schema using fieldInduction generalizing base key with
  | field schema childHypothesis itemHypothesis =>
      have children : (schema.children.flatMap fun child =>
          .key base child.1 :: child.2.visits (base.key child.1)).filterMap Visit.field? =
            schema.children.flatMap fun child =>
              (View.childView options base child).nodes.map View.declared := by
        rw [List.filterMap_flatMap]
        refine List.flatMap_congr fun child member => ?_
        exact childHypothesis child member (base.key child.1) (some child.1)
      have items : (schema.items.toList.flatMap (visits base.item)).filterMap Visit.field? =
          schema.items.toList.flatMap fun item =>
            (View.ofSchema options base.item none item).nodes.map View.declared := by
        rw [List.filterMap_flatMap]
        refine List.flatMap_congr fun item held => ?_
        exact itemHypothesis item (Option.mem_toList.mp held) base.item none
      rw [visits_eq, List.filterMap_cons, List.filterMap_append, children, items,
        View.declared_nodes_ofSchema]
      rfl

/-- A schema has valid keys when the way through it meets no other ones. -/
theorem validKeys_of_visits {schema : Schema} {base : Path}
    (valid : ∀ parent name, .key parent name ∈ schema.visits base → Path.isValidKey name = true) :
    schema.ValidKeys := by
  induction schema using fieldInduction generalizing base with
  | field schema childHypothesis itemHypothesis =>
      rw [visits_eq] at valid
      have below {child : String × Schema} (member : child ∈ schema.children) {visit : Visit}
          (met : visit ∈ Visit.key base child.1 :: child.2.visits (base.key child.1)) :
          visit ∈ .field base schema.checks :: ((schema.children.flatMap fun child =>
            .key base child.1 :: child.2.visits (base.key child.1)) ++
            schema.items.toList.flatMap (visits base.item)) :=
        List.mem_cons_of_mem _ (List.mem_append_left _ (List.mem_flatMap.mpr ⟨child, member, met⟩))
      refine .field (fun child member => ?_) (fun child member => ?_) fun item held => ?_
      · exact valid base child.1 (below member List.mem_cons_self)
      · have validBelow (parent : Path) (name : String)
            (met : .key parent name ∈ child.2.visits (base.key child.1)) :
            Path.isValidKey name = true :=
          valid parent name (below member (List.mem_cons_of_mem _ met))
        exact childHypothesis child member validBelow
      · have validBelow (parent : Path) (name : String)
            (met : .key parent name ∈ item.visits base.item) : Path.isValidKey name = true := by
          refine valid parent name (List.mem_cons_of_mem _ (List.mem_append_right _ ?_))
          rw [Option.mem_def.mp held]
          simpa using met
        exact itemHypothesis item held validBelow

end Schema

namespace Compiler

variable {compiler : Compiler} {workshop next : Workshop}

theorem rulesFor_declarations {path : Path} {declarations : List Declaration} {rules : List Rule}
    (built : compiler.rulesFor path declarations workshop = (.ok rules, next)) :
    rules.map Rule.declaration = declarations := by
  induction declarations generalizing workshop rules with
  | nil =>
      cases built
      rfl
  | cons declaration declarations inductionHypothesis =>
      unfold rulesFor at built
      split at built
      · cases built
      · split at built
        · cases built
        · next onward =>
            cases built
            rw [List.map_cons, inductionHypothesis onward]

/-- A stop that finds no fault adds the rules of its field, or it has met a valid key. -/
theorem stop_ok {visit : Visit} {book result : Rulebook}
    (stopped : compiler.stop visit book workshop = (.ok result, next)) :
    (∃ path rules, visit = .field path (rules.map Rule.declaration) ∧
        result = book.insert path rules) ∨
      ∃ parent name, visit = .key parent name ∧ Path.isValidKey name = true ∧ result = book := by
  cases visit with
  | field path checks =>
      simp only [stop] at stopped
      split at stopped
      · cases stopped
      · next built =>
          cases stopped
          exact .inl ⟨path, _, by rw [rulesFor_declarations built], rfl⟩
  | key parent name =>
      simp only [stop] at stopped
      split at stopped
      · next valid =>
          cases stopped
          exact .inr ⟨parent, name, rfl, valid, rfl⟩
      · cases stopped

theorem declarations?_insert (book : Rulebook) (path other : Path) (rules : List Rule) :
    (book.insert path rules).declarations? other =
      if other = path then some (rules.map Rule.declaration) else book.declarations? other := by
  rw [Rulebook.declarations?, Rulebook.get?_insert]
  split <;> rfl

/-- A way without faults has met valid keys only, and the last field with a path is the one that the
book has declarations of. -/
theorem walk_ok {visits : List Visit} {book result : Rulebook}
    (walked : compiler.walk visits book workshop = (.ok result, next)) :
    (∀ path, result.declarations? path =
      ((visits.filterMap Visit.field?).reverse.lookup path).or (book.declarations? path)) ∧
      ∀ parent name, .key parent name ∈ visits → Path.isValidKey name = true := by
  induction visits generalizing book workshop with
  | nil =>
      cases walked
      simp
  | cons visit visits inductionHypothesis =>
      unfold walk at walked
      split at walked
      · cases walked
      · next stopped =>
          obtain ⟨declared, valid⟩ := inductionHypothesis walked
          rcases stop_ok stopped with ⟨field, rules, rfl, rfl⟩ | ⟨parent, name, rfl, validName, rfl⟩
          · refine ⟨fun path => ?_, fun parent name met => ?_⟩
            · rw [declared path, declarations?_insert, List.filterMap_cons]
              simp only [Visit.field?, List.reverse_cons, List.lookup_append, Option.or_assoc]
              congr 1
              by_cases same : path = field
              · simp [same]
              · have differ : (path == field) = false := beq_false_of_ne same
                simp [same, List.lookup_cons, differ]
            · exact valid parent name (by simpa using met)
          · refine ⟨declared, fun other key met => ?_⟩
            rcases List.mem_cons.mp met with same | later
            · cases same
              exact validName
            · exact valid other key later

/-- A compiled form has the view of its schema, whose keys are valid. The last field of the view with a
path is the one that the rulebook has rules of. -/
theorem compileAt_ok {base : Path} {schema : Schema} {compiled : Compiled}
    (compiles : (compiler.compileAt base schema).result = .ok compiled) :
    compiled.view = .ofSchema compiler.options base none schema ∧ schema.ValidKeys ∧
      ∀ path, compiled.rules.declarations? path =
        (compiled.view.nodes.map View.declared).reverse.lookup path := by
  unfold compileAt at compiles
  split at compiles
  · next walked =>
      cases compiles
      obtain ⟨declared, valid⟩ := walk_ok walked
      refine ⟨rfl, Schema.validKeys_of_visits valid, fun path => ?_⟩
      rw [declared path, Schema.fields_visits compiler.options schema base none]
      exact Option.or_none
  · cases compiles

end Compiler

end Forms
