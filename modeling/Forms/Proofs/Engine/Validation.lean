/-
This file proves what a validation of values reports: at every concrete path that an entry of the
rulebook governs and that the values have room for, what the rules of the entry find there, and nothing
at any other path.
-/

import Forms.Engine
import Forms.Proofs.Compiler.Resolution
import Forms.Proofs.Report.Messages

namespace Forms

namespace Engine

variable {engine : Engine} {values : Json} {path : Path} {rules : List Rule}

/-- The message of a rule at a path. A check that fails itself shows the fallback message. -/
def foundMessage? (engine : Engine) (values : Json) (path : Path) (rule : Rule) : Option String :=
  match rule.check ((path.lookup values).getD .null) ⟨path, values⟩ with
  | .valid => none
  | .violation message => some message
  | .fault _ | .crash => some (engine.catalog.format engine.options.fallbackKey [])

theorem messageOf?_eq (engine : Engine) (values : Json) (path : Path) :
    engine.messageOf? values path = engine.foundMessage? values path := by
  funext rule
  simp only [messageOf?, foundMessage?, Site.value]
  cases rule.check ((path.lookup values).getD .null) ⟨path, values⟩ <;> rfl

/-- A validation of the values looks at the path with the rules: the path is concrete, an entry with the
rules governs it, and the values have room for it. -/
def Covers (engine : Engine) (values : Json) (path : Path) (rules : List Rule) : Prop :=
  path.isTemplate = false ∧
    ∃ template, engine.rules.resolve? path = some (template, rules) ∧ path.ReachedIn template values

/-- The paths that a validation looks at are the instances of the paths of the rulebook. -/
theorem covers_iff (general : engine.rules.IsGeneral) :
    engine.Covers values path rules ↔
      ∃ template, (template, rules) ∈ engine.rules.toList ∧ path ∈ template.instances values := by
  constructor
  · rintro ⟨concrete, template, resolved, reached⟩
    obtain ⟨member, governs⟩ := general.resolve?_eq_some_iff.mp resolved
    have matched := (Path.isInstanceOf_iff_generalize
      (general template (Rulebook.mem_paths_of_mem member))).mpr (general.eq_generalize member governs)
    exact ⟨template, member, Path.mem_instances.mpr ⟨concrete, matched, reached⟩⟩
  · rintro ⟨template, member, listed⟩
    obtain ⟨concrete, matched, reached⟩ := Path.mem_instances.mp listed
    exact ⟨concrete, template, general.resolve?_eq_some_iff.mpr ⟨member, .inr matched⟩, reached⟩

/-- An entry has issues of the paths that it stands for. -/
theorem issuesAt_entry (engine : Engine) (values : Json) (path : Path)
    (entry : Path × List Rule) :
    Report.issuesAt path ((entry.1.instances values).flatMap (engine.fieldIssues values entry.2)) =
      if path ∈ entry.1.instances values then
        (entry.2.filterMap (engine.foundMessage? values path)).map (Issue.mk · .client)
      else [] := by
  have elsewhere (other : Path) (differ : other ≠ path) :
      Report.issuesAt path (engine.fieldIssues values entry.2 other) = [] := by
    rw [fieldIssues, Report.issuesAt_map, if_neg differ]
  split
  · next listed =>
      rw [Report.issuesAt_flatMap_of_mem (entry.1.instances_nodup values) listed
        fun other _ differ => elsewhere other differ]
      rw [fieldIssues, Report.issuesAt_map, if_pos rfl, messageOf?_eq]
  · next absent =>
      rw [Report.issuesAt_flatMap]
      exact List.flatMap_eq_nil_iff.mpr fun other listed =>
        elsewhere other fun same => absent (same ▸ listed)

/-- Only the entry that a path is an instance of has issues of the path. -/
theorem issuesAt_valueIssues_of_mem (unambiguous : engine.rules.IsUnambiguous)
    {entry : Path × List Rule} (member : entry ∈ engine.rules.toList)
    (listed : path ∈ entry.1.instances values) :
    Report.issuesAt path (engine.valueIssues values) =
      (entry.2.filterMap (engine.foundMessage? values path)).map (Issue.mk · .client) := by
  obtain ⟨_, matched, _⟩ := Path.mem_instances.mp listed
  rw [valueIssues, Report.issuesAt_flatMap_of_mem engine.rules.toList_nodup member]
  · rw [issuesAt_entry, if_pos listed]
  · intro other otherMember differ
    rw [issuesAt_entry, if_neg]
    intro otherListed
    obtain ⟨_, otherMatched, _⟩ := Path.mem_instances.mp otherListed
    exact differ (unambiguous.eq_of_isInstanceOf otherMember member otherMatched matched)

theorem issuesAt_valueIssues_eq_nil
    (silent : ∀ entry ∈ engine.rules.toList, path ∉ entry.1.instances values) :
    Report.issuesAt path (engine.valueIssues values) = [] := by
  rw [valueIssues, Report.issuesAt_flatMap]
  refine List.flatMap_eq_nil_iff.mpr fun entry member => ?_
  rw [issuesAt_entry, if_neg (silent entry member)]

/-- A path that has issues is one that the validation looks at. -/
theorem exists_covers_of_issuesAt_ne_nil (general : engine.rules.IsGeneral)
    (found : Report.issuesAt path (engine.valueIssues values) ≠ []) :
    ∃ rules, engine.Covers values path rules := by
  by_contra uncovered
  refine found (issuesAt_valueIssues_eq_nil fun entry member listed => ?_)
  exact uncovered ⟨entry.2, (covers_iff general).mpr ⟨entry.1, member, listed⟩⟩

/-- Exactly one entry has issues of a path that the validation looks at. -/
theorem issuesAt_valueIssues (general : engine.rules.IsGeneral)
    (covers : engine.Covers values path rules) :
    Report.issuesAt path (engine.valueIssues values) =
      (rules.filterMap (engine.foundMessage? values path)).map (Issue.mk · .client) := by
  obtain ⟨template, member, listed⟩ := (covers_iff general).mp covers
  exact issuesAt_valueIssues_of_mem general.isUnambiguous member listed

/-- A path that shows issues after a validation is one that the validation looked at. -/
theorem exists_covers_of_issues (general : engine.rules.IsGeneral)
    (shown : (engine.validateValues values).2.report.issues path ≠ []) :
    ∃ rules, engine.Covers values path rules := by
  refine exists_covers_of_issuesAt_ne_nil general fun silent => shown ?_
  exact Report.issues_ofIssues_eq_nil _ silent

/-- A path that a validation looks at shows the messages of its rules. -/
theorem issues_validateValues (general : engine.rules.IsGeneral)
    (covers : engine.Covers values path rules) :
    (engine.validateValues values).2.report.issues path =
      (shownMessages engine.options.deduplicate
        (rules.filterMap (engine.foundMessage? values path))).map (Issue.mk · .client) :=
  Report.issues_ofIssues (issuesAt_valueIssues general covers)

theorem hasErrors_iff (engine : Engine) :
    engine.hasErrors = true ↔ ∃ path, engine.report.issues path ≠ [] := by
  rw [hasErrors, Bool.not_eq_true', Report.isEmpty_eq_false_iff]

/-- A validation with the rules of a compiled form is exact. Issues lie only at the paths that it looks
at. There they are the messages of the rules in the order of their declaration, and of repeated messages
the first one when the options ask for it. The form is invalid when a path has issues. -/
theorem validateValues_exact {compiler : Compiler} {schema : Schema} {compiled : Compiled}
    (compiles : (compiler.compile schema).result = .ok compiled) (bound : engine.rules = compiled.rules)
    (values : Json) :
    let (invalid, next) := engine.validateValues values
    (∀ path, next.report.issues path ≠ [] → ∃ rules, engine.Covers values path rules) ∧
      (∀ path rules, engine.Covers values path rules →
        next.report.issues path =
          (shownMessages engine.options.deduplicate
            (rules.filterMap (engine.foundMessage? values path))).map (Issue.mk · .client)) ∧
      (invalid = true ↔ ∃ path, next.report.issues path ≠ []) := by
  have general : engine.rules.IsGeneral := bound ▸ Compiler.isGeneral_of_compile compiles
  exact ⟨fun _ => exists_covers_of_issues general, fun _ _ => issues_validateValues general,
    hasErrors_iff _⟩

end Engine

def contactsEngine : Engine where
  rules := contactsForm.rules
  view := contactsForm.view
  source := .live

/-- A contact without a name. -/
def namelessContact : Json := .array [.object [("phones", .array [.string "1"])]]

/-- The missing name is a field that the validation looks at. -/
theorem validateValues_namelessContact :
    (contactsCompiler.compile contacts).result = .ok contactsForm ∧
      contactsEngine.rules = contactsForm.rules ∧
      ∃ rules, contactsEngine.Covers namelessContact ⟨[.index 0, .key "name"]⟩ rules ∧
        (contactsEngine.validateValues namelessContact).2.report.issues ⟨[.index 0, .key "name"]⟩ =
          (shownMessages true (rules.filterMap (contactsEngine.foundMessage? namelessContact
            ⟨[.index 0, .key "name"]⟩))).map (Issue.mk · .client) := by
  have bound : contactsEngine.rules = contactsForm.rules := rfl
  obtain ⟨covered, shown, _⟩ := Engine.validateValues_exact contacts_compile bound namelessContact
  obtain ⟨rules, covers⟩ := covered ⟨[.index 0, .key "name"]⟩ (by decide +kernel)
  exact ⟨contacts_compile, bound, rules, covers, shown _ rules covers⟩

end Forms
