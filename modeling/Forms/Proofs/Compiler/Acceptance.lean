/-
This file proves which schemas compile and which rules they get. The rules of a field depend on its
declarations only, and whether a schema compiles depends neither on its place nor on its neighbours.
-/

import Forms.Proofs.Compiler.Resolution
import Forms.Proofs.Compiler.Workshop

namespace Forms

namespace Compiler

/-- The rules that some declarations build anew. -/
def rules? (compiler : Compiler) (declarations : List Declaration) : Option (List Rule) :=
  declarations.mapM fun declaration => (compiler.check? declaration).map (Rule.mk declaration)

/-- A book after a stop where every check is built anew. -/
def advance? (compiler : Compiler) (book : Rulebook) : Visit → Option Rulebook
  | .field path checks => (compiler.rules? checks).map (book.insert path)
  | .key _ name => if Path.isValidKey name then some book else none

variable {compiler : Compiler}

theorem toOption_rulesAnew (compiler : Compiler) (path : Path) (declarations : List Declaration) :
    (compiler.rulesAnew path declarations).toOption = compiler.rules? declarations := by
  induction declarations with
  | nil => rfl
  | cons declaration declarations inductionHypothesis =>
      rw [rulesAnew] at inductionHypothesis
      rw [rulesAnew, rules?, List.mapM_cons, List.mapM_cons, toOption_bind, toOption_map,
        toOption_build]
      refine congrArg (Option.bind _) (funext fun rule => ?_)
      rw [toOption_bind, inductionHypothesis]
      rfl

theorem toOption_stopAnew (compiler : Compiler) (book : Rulebook) (visit : Visit) :
    (compiler.stopAnew book visit).toOption = compiler.advance? book visit := by
  cases visit with
  | field path checks => rw [stopAnew, toOption_map, toOption_rulesAnew, advance?]
  | key parent name =>
      rw [stopAnew, advance?]
      split <;> rfl

theorem toOption_foldlM_stopAnew (compiler : Compiler) (visits : List Visit) (book : Rulebook) :
    (visits.foldlM compiler.stopAnew book).toOption = visits.foldlM compiler.advance? book := by
  induction visits generalizing book with
  | nil => rfl
  | cons visit visits inductionHypothesis =>
      rw [List.foldlM_cons, List.foldlM_cons, toOption_bind, toOption_stopAnew]
      exact congrArg (Option.bind _) (funext inductionHypothesis)

/-- The rulebook of a compilation holds what every field builds anew. -/
theorem toOption_compileAt (compiler : Compiler) (base : Path) (schema : Schema) :
    (compiler.compileAt base schema).result.toOption =
      ((schema.visits base).foldlM compiler.advance? .empty).map
        (Compiled.mk (.ofSchema compiler.options base none schema)) := by
  rw [compileAt_eq, compileAnew, toOption_map, toOption_foldlM_stopAnew]

/-- The declarations of every field build checks, and every key can stand in the text of a path. -/
inductive Accepts (compiler : Compiler) : Schema → Prop where
  | field {schema : Schema} (rules : (compiler.rules? schema.checks).isSome = true)
      (keys : ∀ child ∈ schema.children, Path.isValidKey child.1 = true)
      (children : ∀ child ∈ schema.children, Accepts compiler child.2)
      (items : ∀ item ∈ schema.items, Accepts compiler item) : Accepts compiler schema

/-- A stop that is no fault, whatever was built before it. -/
def Passes (compiler : Compiler) : Visit → Prop
  | .field _ checks => (compiler.rules? checks).isSome = true
  | .key _ name => Path.isValidKey name = true

theorem isSome_advance?_iff (book : Rulebook) (visit : Visit) :
    (compiler.advance? book visit).isSome = true ↔ compiler.Passes visit := by
  cases visit with
  | field path checks => rw [advance?, Option.isSome_map, Passes]
  | key parent name =>
      rw [advance?, Passes]
      split <;> simp_all

theorem isSome_foldlM_iff (visits : List Visit) (book : Rulebook) :
    (visits.foldlM compiler.advance? book).isSome = true ↔
      ∀ visit ∈ visits, compiler.Passes visit := by
  induction visits generalizing book with
  | nil => simp
  | cons visit visits inductionHypothesis =>
      rw [List.foldlM_cons, List.forall_mem_cons, ← isSome_advance?_iff book visit]
      cases compiler.advance? book visit with
      | none => simp
      | some next => simpa using inductionHypothesis next

theorem accepts_iff {schema : Schema} :
    compiler.Accepts schema ↔
      (compiler.rules? schema.checks).isSome = true ∧
        (∀ child ∈ schema.children, Path.isValidKey child.1 = true ∧ compiler.Accepts child.2) ∧
        ∀ item ∈ schema.items, compiler.Accepts item := by
  constructor
  · rintro ⟨rules, keys, children, items⟩
    exact ⟨rules, fun child member => ⟨keys child member, children child member⟩, items⟩
  · rintro ⟨rules, children, items⟩
    exact .field rules (fun child member => (children child member).1)
      (fun child member => (children child member).2) items

/-- The stops on the way through a schema pass exactly when the schema is accepted. -/
theorem accepts_iff_passes {schema : Schema} (base : Path) :
    compiler.Accepts schema ↔ ∀ visit ∈ schema.visits base, compiler.Passes visit := by
  induction schema using Schema.fieldInduction generalizing base with
  | field schema childHypothesis itemHypothesis =>
      rw [accepts_iff, Schema.visits_eq, List.forall_mem_cons, List.forall_mem_append]
      refine and_congr_right fun _ => and_congr ?_ ?_
      · simp only [List.forall_mem_flatMap, List.forall_mem_cons]
        exact forall₂_congr fun child member =>
          and_congr_right fun _ => childHypothesis child member (base.key child.1)
      · simp only [List.forall_mem_flatMap, Option.mem_toList]
        exact forall₂_congr fun item held => itemHypothesis item held base.item

/-- A schema compiles at one place exactly when it compiles at any other one. -/
theorem exists_compileAt_iff {schema : Schema} (base : Path) :
    (∃ compiled, (compiler.compileAt base schema).result = .ok compiled) ↔
      compiler.Accepts schema := by
  have compiles : (∃ compiled, (compiler.compileAt base schema).result = .ok compiled) ↔
      (compiler.compileAt base schema).result.toOption.isSome = true := by
    cases (compiler.compileAt base schema).result <;> simp [Except.toOption]
  rw [compiles, toOption_compileAt, Option.isSome_map, isSome_foldlM_iff, accepts_iff_passes base]

theorem rules?_declarations {declarations : List Declaration} {rules : List Rule}
    (built : compiler.rules? declarations = some rules) : rules.map Rule.declaration = declarations := by
  induction declarations generalizing rules with
  | nil =>
      cases built
      rfl
  | cons declaration declarations inductionHypothesis =>
      rw [rules?, List.mapM_cons] at built
      obtain ⟨rule, first, built⟩ := Option.bind_eq_some_iff.mp built
      obtain ⟨others, later, built⟩ := Option.bind_eq_some_iff.mp built
      obtain ⟨check, _, rfl⟩ := Option.map_eq_some_iff.mp first
      cases built
      rw [List.map_cons, inductionHypothesis later]

theorem check?_of_mem_rules? {declarations : List Declaration} {rules : List Rule}
    (built : compiler.rules? declarations = some rules) {rule : Rule} (member : rule ∈ rules) :
    compiler.check? rule.declaration = some rule.check := by
  induction declarations generalizing rules with
  | nil =>
      cases built
      cases member
  | cons declaration declarations inductionHypothesis =>
      rw [rules?, List.mapM_cons] at built
      obtain ⟨first, found, built⟩ := Option.bind_eq_some_iff.mp built
      obtain ⟨others, later, built⟩ := Option.bind_eq_some_iff.mp built
      obtain ⟨check, checked, rfl⟩ := Option.map_eq_some_iff.mp found
      cases built
      rcases List.mem_cons.mp member with rfl | inOthers
      · exact checked
      · exact inductionHypothesis later inOthers

/-- The rules of a book are those that their declarations build anew. -/
def Binds (compiler : Compiler) (book : Rulebook) : Prop :=
  ∀ path rules, book.get? path = some rules →
    compiler.rules? (rules.map Rule.declaration) = some rules

theorem Binds.advance? {book next : Rulebook} {visit : Visit} (binds : compiler.Binds book)
    (advanced : compiler.advance? book visit = some next) : compiler.Binds next := by
  cases visit with
  | field field checks =>
      obtain ⟨built, anew, rfl⟩ := Option.map_eq_some_iff.mp advanced
      intro path rules found
      rw [Rulebook.get?_insert] at found
      split at found
      · cases found
        rw [rules?_declarations anew, anew]
      · exact binds path rules found
  | key parent name =>
      rw [Compiler.advance?] at advanced
      split at advanced <;> cases advanced
      exact binds

theorem Binds.foldlM {visits : List Visit} {book last : Rulebook} (binds : compiler.Binds book)
    (advanced : visits.foldlM compiler.advance? book = some last) : compiler.Binds last := by
  induction visits generalizing book with
  | nil =>
      cases advanced
      exact binds
  | cons visit visits inductionHypothesis =>
      rw [List.foldlM_cons] at advanced
      obtain ⟨next, first, later⟩ := Option.bind_eq_some_iff.mp advanced
      exact inductionHypothesis (binds.advance? first) later

section Compiled

variable {base : Path} {schema : Schema} {compiled : Compiled}

theorem binds_compileAt (compiles : (compiler.compileAt base schema).result = .ok compiled) :
    compiler.Binds compiled.rules := by
  have fresh := compiler.toOption_compileAt base schema
  rw [compiles] at fresh
  obtain ⟨book, walked, rfl⟩ := Option.map_eq_some_iff.mp fresh.symm
  have empty : compiler.Binds .empty := fun _ _ found => nomatch found
  exact empty.foldlM walked

/-- When no two siblings share a key, every field has the rules that its own declarations build. -/
theorem get?_of_mem_nodes (distinct : schema.DistinctKeys)
    (compiles : (compiler.compileAt base schema).result = .ok compiled) {node : View}
    (member : node ∈ compiled.view.nodes) :
    ∃ rules, compiled.rules.get? node.path = some rules ∧
      compiler.rules? node.checks = some rules := by
  have listed := (mem_paths_compileAt compiles).mpr ⟨node, member, rfl⟩
  obtain ⟨rules, found⟩ := Option.isSome_iff_exists.mp (OrderedMap.mem_keys_iff.mp listed)
  obtain ⟨other, otherMember, samePath, sameChecks⟩ := exists_node_of_get? compiles found
  rw [(compileAt_ok compiles).1] at member otherMember
  obtain rfl := View.eq_of_path_eq distinct otherMember member samePath
  exact ⟨rules, found, by rw [sameChecks, binds_compileAt compiles _ _ found]⟩

end Compiled

end Compiler

end Forms
