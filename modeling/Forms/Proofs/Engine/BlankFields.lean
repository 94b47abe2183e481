/-
This file proves what a validation reports for a field without a value. The standard checks ask for a value
where the field is required, and they have nothing else to say about it.
-/

import Forms.Proofs.Check.Blank
import Forms.Proofs.Engine.Isolation
import Forms.Proofs.Repetitions

namespace Forms

/-- The field at the path is missing, or it is null or a text of white space only. -/
def Path.IsBlankIn (path : Path) (values : Json) : Prop :=
  path.lookup values = none ∨ path.lookup values = some .null ∨
    ∃ text, path.lookup values = some (.string text) ∧
      ∀ character ∈ text.toList, Text.isBlankChar character = true

theorem Path.IsBlankIn.isAbsent {path : Path} {values : Json} (blank : path.IsBlankIn values) :
    ((path.lookup values).getD .null).isAbsent = true := by
  rcases blank with missing | null | ⟨text, held, spaces⟩
  · rw [missing]
    rfl
  · rw [null]
    rfl
  · rw [held]
    exact List.all_eq_true.mpr spaces

/-- Equal messages are shown as often as they are found, or once when repeated messages are left out. -/
theorem shownMessages_replicate (deduplicate : Bool) (count : Nat) (message : String) :
    shownMessages deduplicate (List.replicate count message) =
      List.replicate (if deduplicate then min count 1 else count) message := by
  cases deduplicate with
  | false => rfl
  | true => exact eraseDups_replicate count message

namespace Engine

variable {engine : Engine} {compiler : Compiler} {base : Path} {schema : Schema} {compiled : Compiled}
  {values : Json} {path : Path}

/-- At a field without a value the required check asks for one, and other standard checks find nothing. -/
theorem verdict_of_isBlankIn (standard : compiler.registry = .standard)
    {declarations : List Declaration} {rules : List Rule}
    (built : compiler.rules? declarations = some rules) (blank : path.IsBlankIn values) {rule : Rule}
    (listed : rule ∈ rules) :
    rule.check ((path.lookup values).getD .null) ⟨path, values⟩ =
      if rule.declaration.isRequired then .violation (compiler.catalog.formatKey .valueRequired [])
      else .valid :=
  Compiler.verdict_of_isAbsent standard (Compiler.check?_of_mem_rules? built listed) blank.isAbsent _

/-- The rules of a field without a value find one message for each required check. -/
theorem foundMessages_of_isBlankIn (standard : compiler.registry = .standard)
    {declarations : List Declaration} {rules : List Rule}
    (built : compiler.rules? declarations = some rules) (blank : path.IsBlankIn values) :
    rules.filterMap (engine.foundMessage? values path) =
      List.replicate (declarations.countP Declaration.isRequired)
        (compiler.catalog.formatKey .valueRequired []) := by
  have found (rule : Rule) (listed : rule ∈ rules) :
      engine.foundMessage? values path rule =
        if rule.declaration.isRequired then some (compiler.catalog.formatKey .valueRequired [])
        else none := by
    rw [foundMessage?, verdict_of_isBlankIn standard built blank listed]
    cases rule.declaration.isRequired <;> rfl
  rw [List.filterMap_congr found, List.eq_replicate_iff, List.length_filterMap_eq_countP,
    ← Compiler.rules?_declarations built, List.countP_map]
  constructor
  · refine List.countP_congr fun rule _ => ?_
    cases required : rule.declaration.isRequired <;> simp [required]
  · intro message member
    obtain ⟨rule, _, shown⟩ := List.mem_filterMap.mp member
    split at shown <;> simp_all

/-- A field of a form with the standard checks is looked at where it has no value: it is missing there, or
it is null or a text of white space only. Then no check of the field fails itself, each required check
asks for a value, and each other check finds the field valid. So the field shows the message of the
required check as often as it declares this check, or once when repeated messages are left out. It shows
nothing else, and it has errors when it is a required field. -/
theorem issues_of_isBlankIn (distinct : schema.DistinctKeys) (standard : compiler.registry = .standard)
    (compiles : (compiler.compileAt base schema).result = .ok compiled)
    (bound : engine.rules = compiled.rules) {node : View} (member : node ∈ compiled.view.nodes)
    (reached : path ∈ node.path.instances values) (blank : path.IsBlankIn values) :
    (∃ rules, engine.rules.get? node.path = some rules ∧
      rules.map Rule.declaration = node.checks ∧
      ∀ rule ∈ rules, rule.check ((path.lookup values).getD .null) ⟨path, values⟩ =
        if rule.declaration.isRequired then .violation (compiler.catalog.formatKey .valueRequired [])
        else .valid) ∧
    (engine.validateValues values).2.report.issues path =
      List.replicate
        (if engine.options.deduplicate then min (node.checks.countP Declaration.isRequired) 1
          else node.checks.countP Declaration.isRequired)
        ⟨compiler.catalog.formatKey .valueRequired [], .client⟩ ∧
    ((engine.validateValues values).2.report.issues path ≠ [] ↔ node.isRequired = true) := by
  obtain ⟨rules, found, built⟩ := Compiler.get?_of_mem_nodes distinct compiles member
  have entry : (node.path, rules) ∈ engine.rules.toList := by
    rw [bound]
    exact Rulebook.get?_eq_some_iff.mp found
  have unambiguous : engine.rules.IsUnambiguous := bound ▸ Compiler.isUnambiguous_of_compileAt compiles
  have shown : (engine.validateValues values).2.report.issues path =
      List.replicate
        (if engine.options.deduplicate then min (node.checks.countP Declaration.isRequired) 1
          else node.checks.countP Declaration.isRequired)
        ⟨compiler.catalog.formatKey .valueRequired [], .client⟩ := by
    have issues := issuesAt_valueIssues_of_mem unambiguous entry reached
    rw [foundMessages_of_isBlankIn standard built blank] at issues
    exact (Report.issues_ofIssues issues).trans (by rw [shownMessages_replicate, List.map_replicate])
  refine ⟨⟨rules, bound ▸ found, Compiler.rules?_declarations built,
    fun rule => verdict_of_isBlankIn standard built blank⟩, shown, ?_⟩
  rw [shown, View.isRequired, List.any_eq_true, ← List.countP_pos_iff, ne_eq, List.replicate_eq_nil_iff]
  cases engine.options.deduplicate <;> simp

end Engine

/-- A form that asks twice for a name. The arrival of a guest may be left out. -/
def signUp : Schema where
  kind := .object
  children := [
    ("name", {
      kind := .string
      checks := [.bare "required", ⟨"minLength", .number (.int 3)⟩, .bare "required"] }),
    ("arrivals", .arrayOf {
      kind := .date
      checks := [.bare "date", ⟨"equalsField", .string "name"⟩, ⟨"oneOf", .array []⟩] })]

def signUpForm : Compiled := ((accountsCompiler.compile signUp).result.toOption).get (by decide)

theorem signUp_compile : (accountsCompiler.compile signUp).result = .ok signUpForm := rfl

theorem signUp_distinctKeys : signUp.DistinctKeys := by decide

/-- This engine shows repeated messages. -/
def signUpEngine : Engine where
  rules := signUpForm.rules
  view := signUpForm.view
  source := .live
  options := { ValidationOptions.standard with deduplicate := false }

/-- The name has white space only, and the arrival is not known. -/
def blankSignUp : Json :=
  .object [("name", .string " \u3000\t"), ("arrivals", .array [.null])]

/-- The name is asked for twice, and the arrival is not asked for. -/
theorem issues_blankSignUp :
    signUp.DistinctKeys ∧ accountsCompiler.registry = .standard ∧
      (accountsCompiler.compileAt .root signUp).result = .ok signUpForm ∧
      signUpEngine.rules = signUpForm.rules ∧
      Path.IsBlankIn ⟨[.key "name"]⟩ blankSignUp ∧
      (signUpEngine.validateValues blankSignUp).2.report.issues ⟨[.key "name"]⟩ =
        List.replicate 2 ⟨accountsCompiler.catalog.formatKey .valueRequired [], .client⟩ ∧
      Path.IsBlankIn ⟨[.key "arrivals", .index 0]⟩ blankSignUp ∧
      (signUpEngine.validateValues blankSignUp).2.report.issues ⟨[.key "arrivals", .index 0]⟩ = [] := by
  have spaces : Path.IsBlankIn ⟨[.key "name"]⟩ blankSignUp :=
    .inr (.inr ⟨" \u3000\t", rfl, List.all_eq_true.mp (by decide)⟩)
  have null : Path.IsBlankIn ⟨[.key "arrivals", .index 0]⟩ blankSignUp := .inr (.inl rfl)
  have bound : signUpEngine.rules = signUpForm.rules := rfl
  have name : signUpForm.view.nodes[1] ∈ signUpForm.view.nodes := List.getElem_mem _
  have arrival : signUpForm.view.nodes[3] ∈ signUpForm.view.nodes := List.getElem_mem _
  have shownName := (Engine.issues_of_isBlankIn signUp_distinctKeys rfl signUp_compile bound name
    (by decide) spaces).2.1
  have shownArrival := (Engine.issues_of_isBlankIn signUp_distinctKeys rfl signUp_compile bound arrival
    (by decide) null).2.1
  exact ⟨signUp_distinctKeys, rfl, signUp_compile, bound, spaces, shownName, null, shownArrival⟩

end Forms
