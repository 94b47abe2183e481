/-
This file proves what the validation of a form reports that nobody has touched. Every field that its keys
lead to is checked with its untouched value, and no element of an array is checked.
-/

import Forms.Proofs.Compiler.Acceptance
import Forms.Proofs.Engine.Validation
import Forms.Proofs.View.Untouched

namespace Forms

namespace Path

/-- A declared path without placeholders has keys only. -/
theorem hasOnlyKeys_of_isDeclared {path : Path} (declared : ∀ step ∈ path.steps, step.IsDeclared)
    (concrete : path.isTemplate = false) : path.HasOnlyKeys := by
  intro step member
  cases step with
  | key name => exact ⟨name, rfl⟩
  | index position => exact (declared _ member).elim
  | item => exact absurd member (isTemplate_eq_false_iff.mp concrete)

theorem HasOnlyKeys.isTemplate {path : Path} (onlyKeys : path.HasOnlyKeys) : path.isTemplate = false := by
  rw [isTemplate_eq_false_iff]
  intro member
  obtain ⟨_, same⟩ := onlyKeys _ member
  cases same

end Path

namespace Compiler

variable {compiler : Compiler} {schema : Schema} {compiled : Compiled}

/-- In an untouched form a field below objects has its untouched value. A field below any other field has
no value. -/
theorem lookup_emptyValue (distinct : schema.DistinctKeys)
    (compiles : (compiler.compile schema).result = .ok compiled) {node : View}
    (member : node ∈ compiled.view.nodes) (onlyKeys : node.path.HasOnlyKeys) :
    node.path.lookup compiled.view.emptyValue =
      if compiled.view.ObjectsAbove node.path then some node.emptyValue else none := by
  have listed : node.path ∈ compiled.rules.paths := (mem_paths_compileAt compiles).mpr ⟨node, member, rfl⟩
  have general : node.path.generalize = node.path :=
    Path.generalize_eq_self (isGeneral_of_compile compiles node.path listed)
  have found : compiled.view.find? node.path = some node :=
    (find?_compile distinct compiles).mpr ⟨member, general.symm⟩
  rw [(compileAt_ok compiles).1] at found ⊢
  exact View.lookupSteps_emptyValue distinct onlyKeys found

/-- In an untouched form a template stands for nothing, and any other path for itself. -/
theorem instances_emptyValue (distinct : schema.DistinctKeys)
    (compiles : (compiler.compile schema).result = .ok compiled) (path : Path) :
    path.instances compiled.view.emptyValue = if path.isTemplate then [] else [path] := by
  rw [(compileAt_ok compiles).1]
  exact View.instances_emptyValue distinct path

end Compiler

namespace Engine

/-- The issues that rules find at a site when its field has a value. -/
def issuesOn (engine : Engine) (site : Site) (value : Json) (rules : List Rule) : List Issue :=
  (shownMessages engine.options.deduplicate
    (rules.filterMap fun rule => (rule.check value site).message? engine.fallback)).map
      (Issue.mk · .client)

variable {engine : Engine} {compiler : Compiler} {schema : Schema} {compiled : Compiled}

/-- A field that a validation looks at has the issues that its rules find with its value. -/
theorem issues_eq_issuesOn (general : engine.rules.IsGeneral) {values : Json} {path : Path}
    {rules : List Rule} (covers : engine.Covers values path rules) :
    (engine.validateValues values).2.report.issues path =
      engine.issuesOn ⟨path, values⟩ ((path.lookup values).getD .null) rules := by
  rw [issues_validateValues general covers, ← messageOf?_eq]
  rfl

/-- The validation of an untouched form looks at the paths of the rulebook that are no templates. -/
theorem covers_emptyValue_iff (distinct : schema.DistinctKeys)
    (compiles : (compiler.compile schema).result = .ok compiled) (bound : engine.rules = compiled.rules)
    {path : Path} {rules : List Rule} :
    engine.Covers compiled.view.emptyValue path rules ↔
      path.isTemplate = false ∧ compiled.rules.get? path = some rules := by
  have general : engine.rules.IsGeneral := bound ▸ Compiler.isGeneral_of_compile compiles
  rw [covers_iff general, bound, Rulebook.get?_eq_some_iff]
  simp only [Compiler.instances_emptyValue distinct compiles]
  constructor
  · rintro ⟨template, member, listed⟩
    cases concrete : template.isTemplate with
    | true =>
        rw [concrete] at listed
        cases listed
    | false =>
        rw [concrete] at listed
        obtain rfl : path = template := by simpa using listed
        exact ⟨concrete, member⟩
  · rintro ⟨concrete, member⟩
    refine ⟨path, member, ?_⟩
    rw [concrete]
    exact List.mem_singleton_self path

/-- The validation of a form without live values looks at the untouched values. -/
theorem validate_null (sameView : engine.view = compiled.view) (live : engine.source = .live) :
    engine.validate .null = engine.validateValues compiled.view.emptyValue := by
  have values : engine.values .null = compiled.view.emptyValue := by
    rw [Engine.values, sameView, live]
    rfl
  rw [validate, values]

/-- Only fields whose paths have keys only have issues in an untouched form. -/
theorem exists_node_of_issues (distinct : schema.DistinctKeys)
    (compiles : (compiler.compile schema).result = .ok compiled) (bound : engine.rules = compiled.rules)
    {path : Path}
    (shown : (engine.validateValues compiled.view.emptyValue).2.report.issues path ≠ []) :
    ∃ node ∈ compiled.view.nodes, node.path = path ∧ path.HasOnlyKeys := by
  have general : engine.rules.IsGeneral := bound ▸ Compiler.isGeneral_of_compile compiles
  obtain ⟨rules, covers⟩ := exists_covers_of_issues general shown
  obtain ⟨concrete, found⟩ := (covers_emptyValue_iff distinct compiles bound).mp covers
  obtain ⟨node, member, rfl, _⟩ := Compiler.exists_node_of_get? compiles found
  have listed := (Compiler.mem_paths_compileAt compiles).mpr ⟨node, member, rfl⟩
  have declared := Compiler.isDeclared_of_compile compiles node.path listed
  exact ⟨node, member, rfl, Path.hasOnlyKeys_of_isDeclared declared concrete⟩

/-- A field whose path has keys only has the issues that its rules find with its untouched value, or with
null when it lies below a field that is no object. -/
theorem issues_emptyValue (distinct : schema.DistinctKeys)
    (compiles : (compiler.compile schema).result = .ok compiled) (bound : engine.rules = compiled.rules)
    {node : View} (member : node ∈ compiled.view.nodes) (onlyKeys : node.path.HasOnlyKeys) :
    ∃ rules, compiled.rules.get? node.path = some rules ∧
      rules.map Rule.declaration = node.checks ∧
      (engine.validateValues compiled.view.emptyValue).2.report.issues node.path =
        engine.issuesOn ⟨node.path, compiled.view.emptyValue⟩
          (if compiled.view.ObjectsAbove node.path then node.emptyValue else .null) rules := by
  have general : engine.rules.IsGeneral := bound ▸ Compiler.isGeneral_of_compile compiles
  obtain ⟨rules, found, built⟩ := Compiler.get?_of_mem_nodes distinct compiles member
  have covers : engine.Covers compiled.view.emptyValue node.path rules :=
    (covers_emptyValue_iff distinct compiles bound).mpr ⟨onlyKeys.isTemplate, found⟩
  refine ⟨rules, found, Compiler.rules?_declarations built, ?_⟩
  rw [issues_eq_issuesOn general covers, Compiler.lookup_emptyValue distinct compiles member onlyKeys]
  split <;> rfl

/-- An untouched form has the shape of its view. A field whose path has keys only and that lies below
objects has its own untouched value. A template stands for nothing, and any other path for itself. So the
first validation reports issues only at fields whose paths have keys only. They are those that the rules
of the field find with its untouched value, or with null when it lies below a field that is no object. -/
theorem untouched_exact (distinct : schema.DistinctKeys)
    (compiles : (compiler.compile schema).result = .ok compiled) :
    let untouched := compiled.view.emptyValue
    (∀ node ∈ compiled.view.nodes, node.path.HasOnlyKeys → compiled.view.ObjectsAbove node.path →
      node.path.lookup untouched = some node.emptyValue) ∧
    (∀ path : Path, path.instances untouched = if path.isTemplate then [] else [path]) ∧
    ∀ engine : Engine, engine.rules = compiled.rules → engine.view = compiled.view →
      engine.source = .live →
        let report := (engine.validate .null).2.report
        (∀ path, report.issues path ≠ [] →
          ∃ node ∈ compiled.view.nodes, node.path = path ∧ path.HasOnlyKeys) ∧
        ∀ node ∈ compiled.view.nodes, node.path.HasOnlyKeys →
          ∃ rules, compiled.rules.get? node.path = some rules ∧
            rules.map Rule.declaration = node.checks ∧
            (compiled.view.ObjectsAbove node.path →
              report.issues node.path =
                engine.issuesOn ⟨node.path, untouched⟩ node.emptyValue rules) ∧
            (¬ compiled.view.ObjectsAbove node.path →
              report.issues node.path = engine.issuesOn ⟨node.path, untouched⟩ .null rules) := by
  intro untouched
  refine ⟨?_, Compiler.instances_emptyValue distinct compiles, ?_⟩
  · intro node member onlyKeys objects
    rw [Compiler.lookup_emptyValue distinct compiles member onlyKeys, if_pos objects]
  · intro engine bound sameView live report
    have validated : report = (engine.validateValues untouched).2.report :=
      congrArg (fun outcome => outcome.2.report) (validate_null sameView live)
    rw [validated]
    refine ⟨fun path shown => exists_node_of_issues distinct compiles bound shown, ?_⟩
    intro node member onlyKeys
    obtain ⟨rules, found, declared, issues⟩ :=
      issues_emptyValue distinct compiles bound member onlyKeys
    refine ⟨rules, found, declared, ?_, ?_⟩
    · intro objects
      rw [issues, if_pos objects]
    · intro other
      rw [issues, if_neg other]

end Engine

/-- A consent that has to be given. -/
def consent : Schema := { kind := .boolean, checks := [.bare "required"] }

/-- The form of a guest. A consent belongs to the guest, and another one to a note, which is no object. -/
def guestForm : Schema where
  kind := .object
  children := [
    ("guest", { kind := .object, children := [("name", requiredText), ("consent", consent)] }),
    ("note", { kind := .string, children := [("consent", consent)] }),
    ("friends", .arrayOf requiredText)]

def compiledGuestForm : Compiled :=
  ((contactsCompiler.compile guestForm).result.toOption).get (by decide)

def guestEngine : Engine where
  rules := compiledGuestForm.rules
  view := compiledGuestForm.view
  source := .live

theorem guestForm_distinctKeys : guestForm.DistinctKeys := by decide

/-- The guest has no name yet. The consent of the guest has a value already, while that of the note has
none. Nothing is asked of friends that are not there. -/
theorem untouched_guestForm :
    guestForm.DistinctKeys ∧ (contactsCompiler.compile guestForm).result = .ok compiledGuestForm ∧
      (Path.lookup ⟨[.key "guest", .key "consent"]⟩ compiledGuestForm.view.emptyValue =
        some (.bool false)) ∧
      Path.instances ⟨[.key "friends", .item]⟩ compiledGuestForm.view.emptyValue = [] ∧
      (∃ rules, compiledGuestForm.rules.get? ⟨[.key "note", .key "consent"]⟩ = some rules ∧
        (guestEngine.validate .null).2.report.issues ⟨[.key "note", .key "consent"]⟩ =
          guestEngine.issuesOn ⟨⟨[.key "note", .key "consent"]⟩, compiledGuestForm.view.emptyValue⟩
            .null rules) ∧
      (guestEngine.validate .null).2.report.paths =
        [⟨[.key "guest", .key "name"]⟩, ⟨[.key "note", .key "consent"]⟩] := by
  have compiles : (contactsCompiler.compile guestForm).result = .ok compiledGuestForm := rfl
  obtain ⟨values, instances, validated⟩ := Engine.untouched_exact guestForm_distinctKeys compiles
  obtain ⟨_, shown⟩ := validated guestEngine rfl rfl rfl
  have ofGuest : compiledGuestForm.view.nodes[3] ∈ compiledGuestForm.view.nodes := List.getElem_mem _
  have ofNote : compiledGuestForm.view.nodes[5] ∈ compiledGuestForm.view.nodes := List.getElem_mem _
  have keysOfGuest : Path.HasOnlyKeys ⟨[.key "guest", .key "consent"]⟩ := by simp [Path.HasOnlyKeys]
  have keysOfNote : Path.HasOnlyKeys ⟨[.key "note", .key "consent"]⟩ := by simp [Path.HasOnlyKeys]
  obtain ⟨rules, found, _, _, issues⟩ := shown _ ofNote keysOfNote
  exact ⟨guestForm_distinctKeys, compiles, values _ ofGuest keysOfGuest (by decide),
    instances ⟨[.key "friends", .item]⟩, ⟨rules, found, issues (by decide)⟩, by decide +kernel⟩

end Forms
