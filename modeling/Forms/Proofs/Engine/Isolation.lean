/-
This file proves that the elements of an array are validated apart. What a validation reports at the
paths of one element does not change when the rest of the values does, as long as the checks look no
farther than the members beside their fields.
-/

import Forms.Proofs.Check.Locality
import Forms.Proofs.Compiler.Acceptance
import Forms.Proofs.Engine.Validation
import Forms.Proofs.Report.Restriction

namespace Forms

/-- The checks of every field of the schema are standard ones, and their comparisons name siblings. -/
def Registry.Confines (registry : Registry) (schema : Schema) : Prop :=
  ∀ inner : Schema, inner.Within schema → ∀ declaration ∈ inner.checks,
    registry.UsesStandard declaration ∧ declaration.NamesSibling

theorem Registry.confines_iff {registry : Registry} {schema : Schema} :
    registry.Confines schema ↔
      (∀ declaration ∈ schema.checks,
        registry.UsesStandard declaration ∧ declaration.NamesSibling) ∧
      (∀ child ∈ schema.children, registry.Confines child.2) ∧
      ∀ item ∈ schema.items, registry.Confines item := by
  constructor
  · intro confined
    exact ⟨confined schema .self,
      fun child member inner inside => confined inner (.child member inside),
      fun item held inner inside => confined inner (.item held inside)⟩
  · intro ⟨checks, children, items⟩ inner within
    cases within with
    | self => exact checks
    | child member inside => exact children _ member inner inside
    | item held inside => exact items _ held inner inside

namespace Compiler

variable {compiler : Compiler}

/-- The rules of a compiled form are local when its schema is confined. -/
theorem isLocal_of_mem_rules {base : Path} {schema : Schema} {compiled : Compiled}
    (compiles : (compiler.compileAt base schema).result = .ok compiled)
    (confined : compiler.registry.Confines schema) {entry : Path × List Rule}
    (member : entry ∈ compiled.rules.toList) {rule : Rule} (listed : rule ∈ entry.2) :
    Check.IsLocal rule.check := by
  have found := Rulebook.get?_eq_some_iff.mpr member
  obtain ⟨node, inView, _, sameChecks⟩ := exists_node_of_get? compiles found
  rw [(compileAt_ok compiles).1] at inView
  obtain ⟨inner, within, declared⟩ := View.exists_within_of_mem_nodes inView
  have built := check?_of_mem_rules? (binds_compileAt compiles _ _ found) listed
  have inChecks : rule.declaration ∈ inner.checks := by
    rw [← declared, sameChecks]
    exact List.mem_map_of_mem listed
  obtain ⟨standard, bare⟩ := confined inner within rule.declaration inChecks
  exact isLocal_of_check? standard bare built

end Compiler

/-- The values have an array at the path, with the element at the position. -/
def Path.HoldsElement (array : Path) (position : Nat) (element values : Json) : Prop :=
  ∃ items, array.lookup values = some (.array items) ∧ items[position]? = some element

namespace Path.HoldsElement

variable {array : Path} {position : Nat} {element values : Json}

theorem lookup (held : array.HoldsElement position element values) :
    (array.index position).lookup values = some element := by
  obtain ⟨items, reached, inside⟩ := held
  rw [Path.index, Path.lookup_push, reached]
  exact inside

theorem lookup_extend (held : array.HoldsElement position element values) (steps : List Step) :
    ((array.index position).extend steps).lookup values = Path.lookupSteps steps element := by
  have reached := held.lookup
  rw [Path.lookup] at reached
  rw [Path.lookup, Path.extend, Path.lookupSteps_append, reached, Option.bind_some]

/-- The element itself has no siblings with keys, because an array has no members. The siblings of a
field inside the element are inside the element as well. -/
theorem sibling?_extend (held : array.HoldsElement position element values) (steps : List Step)
    (key : String) :
    Site.sibling? ⟨(array.index position).extend steps, values⟩ key =
      if steps = [] then none else Path.lookupSteps (steps.dropLast ++ [.key key]) element := by
  have parent : ((array.index position).extend steps).parent? =
      some ⟨(array.steps ++ .index position :: steps).dropLast⟩ := by
    simp [Path.parent?, Path.isRoot, Path.extend, Path.index, Path.push]
  rw [Site.sibling?, parent, Option.bind_some, Path.key, Path.lookup_push]
  split
  · next here =>
      obtain ⟨items, reached, _⟩ := held
      subst here
      rw [List.dropLast_concat, reached]
      rfl
  · next deeper =>
      have inside : (⟨(array.steps ++ .index position :: steps).dropLast⟩ : Path) =
          (array.index position).extend steps.dropLast := by
        cases steps with
        | nil => exact absurd rfl deeper
        | cons step steps => simp [Path.extend, Path.index, Path.push]
      rw [inside, held.lookup_extend, Path.lookupSteps_append]
      cases Path.lookupSteps steps.dropLast element <;> simp [Path.lookupSteps]

/-- The general form of a path inside the element stands for the path when the element has room for
it. -/
theorem mem_instances_generalize (held : array.HoldsElement position element values)
    (concrete : array.isTemplate = false) (steps : List Step) :
    (array.index position).extend steps ∈
        ((array.index position).extend steps).generalize.instances values ↔
      steps ∈ Path.expand (steps.map Step.generalize) (some element) := by
  have front : Step.item ∉ (array.index position).steps := by
    rw [Path.isTemplate_eq_false_iff] at concrete
    simpa [Path.index, Path.push] using concrete
  rw [Path.mem_instances_iff_steps, Path.generalize_extend]
  exact Path.append_mem_expand_generalize front held.lookup

end Path.HoldsElement

namespace Engine

variable {engine : Engine} {array : Path} {position : Nat} {element left right : Json}

/-- A rule with a local check finds the same at a path inside the element. -/
theorem foundMessage?_extend (leftHeld : array.HoldsElement position element left)
    (rightHeld : array.HoldsElement position element right) {rule : Rule}
    (isLocal : Check.IsLocal rule.check) (steps : List Step) :
    engine.foundMessage? left ((array.index position).extend steps) rule =
      engine.foundMessage? right ((array.index position).extend steps) rule := by
  have sameVerdict := isLocal ((Path.lookupSteps steps element).getD .null)
    ⟨(array.index position).extend steps, left⟩ ⟨(array.index position).extend steps, right⟩
    fun key => by rw [leftHeld.sibling?_extend, rightHeld.sibling?_extend]
  rw [foundMessage?, foundMessage?, leftHeld.lookup_extend, rightHeld.lookup_extend, sameVerdict]

/-- An entry of the rulebook stands for a path inside the element in both trees or in neither. -/
theorem mem_instances_extend_iff (general : engine.rules.IsGeneral)
    (concrete : array.isTemplate = false) (leftHeld : array.HoldsElement position element left)
    (rightHeld : array.HoldsElement position element right) {entry : Path × List Rule}
    (member : entry ∈ engine.rules.toList) (steps : List Step) :
    (array.index position).extend steps ∈ entry.1.instances left ↔
      (array.index position).extend steps ∈ entry.1.instances right := by
  by_cases same : entry.1 = ((array.index position).extend steps).generalize
  · rw [same, leftHeld.mem_instances_generalize concrete, rightHeld.mem_instances_generalize concrete]
  · have outside (values : Json) : (array.index position).extend steps ∉ entry.1.instances values := by
      intro listed
      obtain ⟨_, matched, _⟩ := Path.mem_instances.mp listed
      exact same (general.eq_generalize member (.inr matched))
    exact iff_of_false (outside left) (outside right)

/-- The elements of an array are validated apart. When a form has standard checks only, and when its
comparisons name siblings, two validations report the same at the paths of an element that both trees
of values hold at one position of the array. The other elements, their number and the other fields do not
matter. -/
theorem issues_element_isolated {compiler : Compiler} {schema : Schema} {compiled : Compiled}
    (compiles : (compiler.compile schema).result = .ok compiled)
    (confined : compiler.registry.Confines schema) (bound : engine.rules = compiled.rules)
    (concrete : array.isTemplate = false) (leftHeld : array.HoldsElement position element left)
    (rightHeld : array.HoldsElement position element right) {path : Path}
    (inside : path.startsWith (array.index position) = true) :
    (engine.validateValues left).2.report.issues path =
      (engine.validateValues right).2.report.issues path := by
  obtain ⟨steps, rfl⟩ := Path.startsWith_iff.mp inside
  have general : engine.rules.IsGeneral := bound ▸ Compiler.isGeneral_of_compile compiles
  have sameEntries {entry : Path × List Rule} (member : entry ∈ engine.rules.toList) :=
    mem_instances_extend_iff general concrete leftHeld rightHeld member steps
  apply Report.issues_ofIssues_congr
  by_cases governed : ∃ entry ∈ engine.rules.toList,
      (array.index position).extend steps ∈ entry.1.instances left
  · obtain ⟨entry, member, listed⟩ := governed
    rw [issuesAt_valueIssues_of_mem general.isUnambiguous member listed,
      issuesAt_valueIssues_of_mem general.isUnambiguous member ((sameEntries member).mp listed)]
    congr 1
    apply List.filterMap_congr
    intro rule inEntry
    have isLocal := Compiler.isLocal_of_mem_rules compiles confined (bound ▸ member) inEntry
    exact foundMessage?_extend leftHeld rightHeld isLocal steps
  · have silentLeft (entry : Path × List Rule) (member : entry ∈ engine.rules.toList) :
        (array.index position).extend steps ∉ entry.1.instances left :=
      fun listed => governed ⟨entry, member, listed⟩
    rw [issuesAt_valueIssues_eq_nil silentLeft, issuesAt_valueIssues_eq_nil]
    intro entry member
    rw [← sameEntries member]
    exact silentLeft entry member

end Engine

/-- An account repeats its address. -/
def account : Schema where
  kind := .object
  children := [
    ("mail", { kind := .string, checks := [.bare "required"] }),
    ("again", { kind := .string, checks := [⟨"equalsField", .string "mail"⟩] })]

def accounts : Schema := { kind := .object, children := [("accounts", .arrayOf account)] }

def accountsCompiler : Compiler := ⟨.standard, .standard, .standard⟩

def accountsForm : Compiled := ((accountsCompiler.compile accounts).result.toOption).get (by decide)

theorem accounts_compile : (accountsCompiler.compile accounts).result = .ok accountsForm := rfl

theorem accounts_confined : accountsCompiler.registry.Confines accounts := by
  have required : accountsCompiler.registry.UsesStandard (.bare "required") :=
    ⟨.required, rfl, rfl⟩
  have equals : accountsCompiler.registry.UsesStandard ⟨"equalsField", .string "mail"⟩ :=
    ⟨.equalsField, rfl, rfl⟩
  have noComparison : (Declaration.bare "required").NamesSibling := by
    intro compares
    exact absurd compares (by decide)
  have sibling : Declaration.NamesSibling ⟨"equalsField", .string "mail"⟩ := by
    rintro _ _ ⟨⟩
    decide
  have mail : accountsCompiler.registry.Confines { kind := .string, checks := [.bare "required"] } :=
    Registry.confines_iff.mpr (by simp [required, noComparison])
  have again : accountsCompiler.registry.Confines
      { kind := .string, checks := [⟨"equalsField", .string "mail"⟩] } :=
    Registry.confines_iff.mpr (by simp [equals, sibling])
  have element : accountsCompiler.registry.Confines account :=
    Registry.confines_iff.mpr (by simp [account, mail, again])
  have array : accountsCompiler.registry.Confines (.arrayOf account) :=
    Registry.confines_iff.mpr (by simp [Schema.arrayOf, element])
  exact Registry.confines_iff.mpr (by simp [accounts, array])

def accountsEngine : Engine where
  rules := accountsForm.rules
  view := accountsForm.view
  source := .live

/-- The address of the account differs from its repetition. -/
def mistyped : Json := .object [("mail", .string "a@b.c"), ("again", .string "a@b.d")]

def firstAccounts : Json := .object [("accounts", .array [.null, mistyped])]

def otherAccounts : Json :=
  .object [("mail", .string "a@b.d"), ("accounts", .array [mistyped, mistyped, .object []])]

/-- The second account is the same in both forms, and its error is too. -/
theorem issues_mistyped_isolated :
    (accountsCompiler.compile accounts).result = .ok accountsForm ∧
      accountsCompiler.registry.Confines accounts ∧ accountsEngine.rules = accountsForm.rules ∧
      Path.HoldsElement ⟨[.key "accounts"]⟩ 1 mistyped firstAccounts ∧
      Path.HoldsElement ⟨[.key "accounts"]⟩ 1 mistyped otherAccounts ∧
      (accountsEngine.validateValues firstAccounts).2.report.issues
          ⟨[.key "accounts", .index 1, .key "again"]⟩ =
        (accountsEngine.validateValues otherAccounts).2.report.issues
          ⟨[.key "accounts", .index 1, .key "again"]⟩ ∧
      (accountsEngine.validateValues otherAccounts).2.report.issues
          ⟨[.key "accounts", .index 1, .key "again"]⟩ ≠ [] := by
  have leftHeld : Path.HoldsElement ⟨[.key "accounts"]⟩ 1 mistyped firstAccounts := ⟨_, rfl, rfl⟩
  have rightHeld : Path.HoldsElement ⟨[.key "accounts"]⟩ 1 mistyped otherAccounts := ⟨_, rfl, rfl⟩
  have bound : accountsEngine.rules = accountsForm.rules := rfl
  exact ⟨accounts_compile, accounts_confined, bound, leftHeld, rightHeld,
    Engine.issues_element_isolated accounts_compile accounts_confined bound rfl leftHeld rightHeld
      (by decide), by decide +kernel⟩

end Forms
