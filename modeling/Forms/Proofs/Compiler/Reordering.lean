/-
This file proves that the order of fields has no part in a compilation. Schemas that differ in the order
of siblings compile together, and their rulebooks are equal.
-/

import Forms.Proofs.Compiler.Acceptance

namespace Forms

namespace Schema

/-- One schema becomes another when children change places within their field. This may happen in any
field of the schema, and any number of times. -/
inductive Reordered : Schema → Schema → Prop where
  | refl (schema : Schema) : Reordered schema schema
  | children (schema : Schema) {children : List (String × Schema)}
      (permuted : schema.children.Perm children) : Reordered schema { schema with children }
  | child (schema : Schema) (before after : List (String × Schema)) (key : String)
      {inner other : Schema} (inside : Reordered inner other) :
      Reordered { schema with children := before ++ (key, inner) :: after }
        { schema with children := before ++ (key, other) :: after }
  | item (schema : Schema) {inner other : Schema} (inside : Reordered inner other) :
      Reordered { schema with items := some inner } { schema with items := some other }
  | trans {first second third : Schema} (one : Reordered first second)
      (two : Reordered second third) : Reordered first third

/-- The keys of siblings stay as distinct as they are. -/
theorem Reordered.distinctKeys_iff {left right : Schema} (reordered : left.Reordered right) :
    left.DistinctKeys ↔ right.DistinctKeys := by
  induction reordered with
  | refl schema => rfl
  | children schema permuted =>
      rw [Schema.distinctKeys_iff, Schema.distinctKeys_iff]
      refine and_congr (permuted.map Prod.fst).nodup_iff (and_congr_left fun _ => ?_)
      exact forall_congr' fun child => imp_congr_left permuted.mem_iff
  | child schema before after key inside inductionHypothesis =>
      rw [Schema.distinctKeys_iff, Schema.distinctKeys_iff]
      simp only [List.map_append, List.map_cons, List.forall_mem_append, List.forall_mem_cons,
        inductionHypothesis]
  | item schema inside inductionHypothesis =>
      rw [Schema.distinctKeys_iff, Schema.distinctKeys_iff]
      simp only [Option.mem_some_iff, forall_eq', inductionHypothesis]
  | trans one two oneHypothesis twoHypothesis => exact oneHypothesis.trans twoHypothesis

end Schema

namespace View

variable {options : RenderOptions}

/-- Views of schemas that differ in the order of siblings have the same fields with the same
declarations, in some order. -/
theorem perm_declared_of_reordered {left right : Schema} (reordered : left.Reordered right) (base : Path)
    (key : Option String) :
    ((ofSchema options base key left).nodes.map declared).Perm
      ((ofSchema options base key right).nodes.map declared) := by
  induction reordered generalizing base key with
  | refl schema => exact .refl _
  | children schema permuted =>
      rw [declared_nodes_ofSchema, declared_nodes_ofSchema]
      exact ((permuted.flatMap_right _).append_right _).cons _
  | child schema before after name inside inductionHypothesis =>
      have inner := inductionHypothesis (base.key name) (some name)
      rw [declared_nodes_ofSchema, declared_nodes_ofSchema]
      simp only [List.flatMap_append, List.flatMap_cons]
      exact (((inner.append_right _).append_left _).append_right _).cons _
  | item schema inside inductionHypothesis =>
      have inner := inductionHypothesis base.item none
      rw [declared_nodes_ofSchema, declared_nodes_ofSchema]
      simp only [Option.toList_some, List.flatMap_singleton]
      exact (inner.append_left _).cons _
  | trans one two oneHypothesis twoHypothesis =>
      exact (oneHypothesis base key).trans (twoHypothesis base key)

end View

namespace Compiler

variable {compiler : Compiler} {left right : Schema} {leftForm rightForm : Compiled}

theorem accepts_iff_of_reordered (reordered : left.Reordered right) :
    compiler.Accepts left ↔ compiler.Accepts right := by
  induction reordered with
  | refl schema => rfl
  | children schema permuted =>
      rw [accepts_iff, accepts_iff]
      refine and_congr_right fun _ => and_congr_left fun _ => ?_
      exact forall_congr' fun child => imp_congr_left permuted.mem_iff
  | child schema before after key inside inductionHypothesis =>
      rw [accepts_iff, accepts_iff]
      simp only [List.forall_mem_append, List.forall_mem_cons, inductionHypothesis]
  | item schema inside inductionHypothesis =>
      rw [accepts_iff, accepts_iff]
      simp only [Option.mem_some_iff, forall_eq', inductionHypothesis]
  | trans one two oneHypothesis twoHypothesis => exact oneHypothesis.trans twoHypothesis

/-- Schemas that differ in the order of siblings compile together. -/
theorem exists_compile_iff_of_reordered (reordered : left.Reordered right) :
    (∃ form, (compiler.compile left).result = .ok form) ↔
      ∃ form, (compiler.compile right).result = .ok form := by
  rw [compile, compile, exists_compileAt_iff, exists_compileAt_iff, accepts_iff_of_reordered reordered]

/-- A field that both forms declare alike has the same rules in both. -/
theorem get?_of_perm_declared (distinct : right.DistinctKeys)
    (compilesLeft : (compiler.compile left).result = .ok leftForm)
    (compilesRight : (compiler.compile right).result = .ok rightForm)
    (permuted : (leftForm.view.nodes.map View.declared).Perm (rightForm.view.nodes.map View.declared))
    {path : Path} {rules : List Rule} (found : leftForm.rules.get? path = some rules) :
    rightForm.rules.get? path = some rules := by
  obtain ⟨node, member, rfl, checks⟩ := exists_node_of_get? compilesLeft found
  obtain ⟨other, otherMember, same⟩ :=
    List.mem_map.mp (permuted.subset (List.mem_map_of_mem (f := View.declared) member))
  obtain ⟨rightRules, rightFound, built⟩ := get?_of_mem_nodes distinct compilesRight otherMember
  have builtAlike : compiler.rules? other.checks = some rules := by
    have sameChecks : other.checks = node.checks := congrArg Prod.snd same
    rw [sameChecks, checks]
    exact binds_compileAt compilesLeft _ _ found
  have samePath : other.path = node.path := congrArg Prod.fst same
  rw [← samePath, rightFound, ← built, builtAlike]

/-- Forms of schemas that differ in the order of siblings have one rulebook. -/
theorem rules_eq_of_reordered (reordered : left.Reordered right) (distinct : left.DistinctKeys)
    (compilesLeft : (compiler.compile left).result = .ok leftForm)
    (compilesRight : (compiler.compile right).result = .ok rightForm) :
    leftForm.rules = rightForm.rules := by
  have permuted :
      (leftForm.view.nodes.map View.declared).Perm (rightForm.view.nodes.map View.declared) := by
    rw [(compileAt_ok compilesLeft).1, (compileAt_ok compilesRight).1]
    exact View.perm_declared_of_reordered reordered .root none
  have distinctRight := reordered.distinctKeys_iff.mp distinct
  have lookups (path : Path) : leftForm.rules.get? path = rightForm.rules.get? path :=
    Option.ext fun rules =>
      ⟨get?_of_perm_declared distinctRight compilesLeft compilesRight permuted,
        get?_of_perm_declared distinct compilesRight compilesLeft permuted.symm⟩
  exact congrArg Rulebook.mk (OrderedMap.eq_of_get?_eq lookups)

end Compiler

end Forms
