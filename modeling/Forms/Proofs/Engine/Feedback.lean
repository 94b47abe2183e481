/-
This file proves that feedback reaches every field of a compiled form: messages that are sent to the
texts of paths are the issues of these paths, and a report that is sent back is shown again.
-/

import Forms.Proofs.Engine.Validation
import Forms.Proofs.Feedback.Grouping
import Forms.Proofs.Path.Addressing
import Mathlib.Data.List.Nodup

namespace Forms

/-- Messages for paths, sent to the texts of the paths. -/
def Feedback.ofMessages (pairs : List (Path × List String)) : Feedback :=
  .ofPairs (pairs.map fun pair => (pair.1.text, pair.2))

/-- The messages that a report shows at its paths. -/
def Report.shown (report : Report) : List (Path × List String) :=
  report.paths.map fun path => (path, report.messages path)

namespace Rulebook

/-- Feedback can address a path that is concrete, has positions of 64 bits and is an instance of a path
of the rulebook. -/
def Addresses (book : Rulebook) (path : Path) : Prop :=
  path.isTemplate = false ∧ path.isAddressable = true ∧
    ∃ template ∈ book.paths, path.isInstanceOf template = true

instance (book : Rulebook) (path : Path) : Decidable (book.Addresses path) :=
  inferInstanceAs (Decidable (_ ∧ _ ∧ _))

/-- Messages that feedback can deliver: every path occurs once, has messages and can be addressed. -/
structure Delivers (book : Rulebook) (pairs : List (Path × List String)) : Prop where
  distinct : (pairs.map Prod.fst).Nodup
  inhabited : ∀ pair ∈ pairs, pair.2 ≠ []
  addresses : ∀ pair ∈ pairs, book.Addresses pair.1

end Rulebook

namespace Engine

variable {engine : Engine} {path : Path} {pairs : List (Path × List String)}

/-- The text of a path that feedback can address names the path. -/
theorem field_text (declared : engine.rules.IsDeclared) (addresses : engine.rules.Addresses path) :
    engine.field path.text = .ok path := by
  obtain ⟨concrete, addressable, template, member, matched⟩ := addresses
  have writable := Path.isWritable_of_isInstanceOf (declared template member) matched addressable
  have accepted : engine.rules.accepts path = true := by
    obtain ⟨entry, listed, rfl⟩ := List.mem_map.mp member
    have governed := declared.isGeneral.resolve?_eq_some_iff.mpr ⟨listed, .inr matched⟩
    rw [Rulebook.accepts, governed]
    rfl
  rw [field, Path.ofText_text writable]
  simp only [concrete, accepted, Bool.false_eq_true, if_false, if_true]

section Delivery

variable (declared : engine.rules.IsDeclared) (delivers : engine.rules.Delivers pairs)

include declared delivers

/-- Messages are read back from the texts of their paths as issues of these paths. -/
theorem feedbackIssues_ofMessages :
    engine.feedbackIssues (.ofMessages pairs) =
      pairs.flatMap fun pair => pair.2.map fun message => (pair.1, ⟨message, .server⟩) := by
  have named (pair : Path × List String) (member : pair ∈ pairs) :=
    field_text declared (delivers.addresses pair member)
  have distinctTexts : ((pairs.map fun pair => (pair.1.text, pair.2)).map Prod.fst).Nodup := by
    rw [List.map_map]
    refine List.Nodup.map_on (fun left member right other same => ?_)
      (List.Nodup.of_map _ delivers.distinct)
    -- One text names one path.
    have samePath : (.ok left.1 : Except PathError Path) = .ok right.1 :=
      (named left member).symm.trans ((congrArg engine.field same).trans (named right other))
    exact List.inj_on_of_nodup_map delivers.distinct member other (Except.ok.inj samePath)
  have inhabitedTexts : ∀ pair ∈ pairs.map fun pair => (pair.1.text, pair.2), pair.2 ≠ [] :=
    List.forall_mem_map.mpr delivers.inhabited
  rw [feedbackIssues, Feedback.ofMessages, Feedback.entries_ofPairs distinctTexts inhabitedTexts,
    List.map_map, List.flatMap_map]
  refine List.flatMap_congr fun pair member => ?_
  simp only [Function.comp_apply, named pair member, List.map_map]
  rfl

/-- Messages that are received become the issues of their paths. -/
theorem issues_receive_ofMessages {pair : Path × List String} (member : pair ∈ pairs) :
    (engine.receive (.ofMessages pairs)).2.report.issues pair.1 =
      (shownMessages engine.options.deduplicate pair.2).map (Issue.mk · .server) := by
  refine Report.issues_ofIssues ?_
  rw [feedbackIssues_ofMessages declared delivers,
    Report.issuesAt_flatMap_of_mem (List.Nodup.of_map _ delivers.distinct) member]
  · rw [Report.issuesAt_map, if_pos rfl]
  · intro other otherMember differ
    rw [Report.issuesAt_map, if_neg]
    exact fun same => differ (List.inj_on_of_nodup_map delivers.distinct otherMember member same)

/-- Paths without messages have no issues afterwards. -/
theorem issues_receive_eq_nil (absent : path ∉ pairs.map Prod.fst) :
    (engine.receive (.ofMessages pairs)).2.report.issues path = [] := by
  refine Report.issues_ofIssues_eq_nil _ ?_
  rw [feedbackIssues_ofMessages declared delivers, Report.issuesAt_flatMap]
  refine List.flatMap_eq_nil_iff.mpr fun pair member => ?_
  rw [Report.issuesAt_map, if_neg]
  exact fun same => absent (List.mem_map.mpr ⟨pair, member, same⟩)

theorem mem_paths_receive_ofMessages (path : Path) :
    path ∈ (engine.receive (.ofMessages pairs)).2.report.paths ↔ path ∈ pairs.map Prod.fst := by
  rw [Report.mem_paths_iff]
  constructor
  · exact fun present => by_contra fun absent =>
      present (issues_receive_eq_nil declared delivers absent)
  · intro listed
    obtain ⟨pair, member, rfl⟩ := List.mem_map.mp listed
    rw [issues_receive_ofMessages declared delivers member, ne_eq, List.map_eq_nil_iff]
    exact shownMessages_ne_nil.mpr (delivers.inhabited pair member)

theorem accepted_receive_ofMessages : (engine.receive (.ofMessages pairs)).1 = true ↔ pairs ≠ [] := by
  have verdict : (engine.receive (.ofMessages pairs)).1 =
      (engine.receive (.ofMessages pairs)).2.hasErrors := rfl
  rw [verdict, hasErrors_iff]
  simp only [← Report.mem_paths_iff, mem_paths_receive_ofMessages declared delivers]
  constructor
  · rintro ⟨path, listed⟩ rfl
    cases listed
  · intro present
    obtain ⟨pair, member⟩ := List.exists_mem_of_ne_nil pairs present
    exact ⟨pair.1, List.mem_map_of_mem member⟩

end Delivery

/-- A validation of addressable values shows issues at paths that feedback can address. -/
theorem addresses_of_mem_paths (declared : engine.rules.IsDeclared) {values : Json}
    (addressable : values.isAddressable = true)
    (member : path ∈ (engine.validateValues values).2.report.paths) : engine.rules.Addresses path := by
  obtain ⟨rules, covers⟩ := exists_covers_of_issues declared.isGeneral (Report.mem_paths_iff.mp member)
  obtain ⟨template, listed, instanced⟩ := (covers_iff declared.isGeneral).mp covers
  obtain ⟨concrete, matched, _⟩ := Path.mem_instances.mp instanced
  have templateMember := Rulebook.mem_paths_of_mem listed
  exact ⟨concrete, Path.isAddressable_of_mem_instances (declared template templateMember) addressable
    instanced, template, templateMember, matched⟩

/-- The messages that a path shows after a validation are not shortened again. -/
theorem shownMessages_validateValues (general : engine.rules.IsGeneral) {values : Json}
    (member : path ∈ (engine.validateValues values).2.report.paths) :
    let messages := (engine.validateValues values).2.report.messages path
    shownMessages engine.options.deduplicate messages = messages := by
  intro messages
  obtain ⟨rules, covers⟩ := exists_covers_of_issues general (Report.mem_paths_iff.mp member)
  have shown : messages = shownMessages engine.options.deduplicate
      (rules.filterMap (engine.foundMessage? values path)) := by
    rw [show messages = _ from congrArg _ (issues_validateValues general covers), List.map_map]
    exact List.map_id _
  rw [shown, shownMessages_idempotent]

/-- The report of a validation can be sent back. -/
theorem delivers_shown (declared : engine.rules.IsDeclared) {values : Json}
    (addressable : values.isAddressable = true) :
    engine.rules.Delivers (engine.validateValues values).2.report.shown where
  distinct := by
    rw [Report.shown, List.map_map]
    refine List.Nodup.map_on (fun _ _ _ _ same => same) ?_
    exact (engine.validateValues values).2.report.entries.keys_nodup
  inhabited := List.forall_mem_map.mpr fun path member => by
    simpa [Report.messages] using Report.mem_paths_iff.mp member
  addresses := List.forall_mem_map.mpr fun path => addresses_of_mem_paths declared addressable

/-- A report of a validation that is sent back is shown again as issues of the server. -/
theorem issues_receive_shown (declared : engine.rules.IsDeclared) {values : Json}
    (addressable : values.isAddressable = true) (path : Path) :
    let checked := (engine.validateValues values).2
    (checked.receive (.ofMessages checked.report.shown)).2.report.issues path =
      (checked.report.messages path).map (Issue.mk · .server) := by
  intro checked
  -- The validation changes neither the rules nor the options.
  have declaredNext : checked.rules.IsDeclared := declared
  have delivers : checked.rules.Delivers checked.report.shown := delivers_shown declared addressable
  by_cases member : path ∈ checked.report.paths
  · have listed : (path, checked.report.messages path) ∈ checked.report.shown :=
      List.mem_map.mpr ⟨path, member, rfl⟩
    have stable : shownMessages checked.options.deduplicate (checked.report.messages path) =
        checked.report.messages path := shownMessages_validateValues declared.isGeneral member
    have received := issues_receive_ofMessages declaredNext delivers listed
    rwa [stable] at received
  · have absent : path ∉ checked.report.shown.map Prod.fst := by
      simpa [Report.shown, Function.comp_def] using member
    have silent : checked.report.issues path = [] :=
      by_contra fun present => member (Report.mem_paths_iff.mpr present)
    rw [issues_receive_eq_nil declaredNext delivers absent, Report.messages, silent]
    rfl

/-- Feedback reaches every field of a compiled form. Messages that are sent to the texts of distinct
paths are afterwards the issues of exactly these paths, in order and of repeated messages the first one
when the options ask for it. In particular a report of a validation that is sent back is shown again as
issues of the server. -/
theorem feedback_reaches_fields {compiler : Compiler} {schema : Schema} {compiled : Compiled}
    (compiles : (compiler.compile schema).result = .ok compiled) (bound : engine.rules = compiled.rules) :
    (∀ pairs, engine.rules.Delivers pairs →
      let (accepted, next) := engine.receive (.ofMessages pairs)
      (accepted = true ↔ pairs ≠ []) ∧
        (∀ path, path ∈ next.report.paths ↔ path ∈ pairs.map Prod.fst) ∧
        ∀ pair ∈ pairs, next.report.issues pair.1 =
          (shownMessages engine.options.deduplicate pair.2).map (Issue.mk · .server)) ∧
      ∀ values, values.isAddressable = true →
        let (_, checked) := engine.validateValues values
        let (_, next) := checked.receive (.ofMessages checked.report.shown)
        ∀ path, next.report.issues path =
          (checked.report.messages path).map (Issue.mk · .server) := by
  have declared : engine.rules.IsDeclared := bound ▸ Compiler.isDeclared_of_compile compiles
  exact ⟨fun pairs delivers => ⟨accepted_receive_ofMessages declared delivers,
      mem_paths_receive_ofMessages declared delivers,
      fun _ => issues_receive_ofMessages declared delivers⟩,
    fun _ => issues_receive_shown declared⟩

end Engine

/-- Messages for the name and a phone of one contact. -/
def contactMessages : List (Path × List String) := [
  (⟨[.index 0, .key "name"]⟩, ["taken", "taken"]),
  (⟨[.index 0, .key "phones", .index 2]⟩, ["unknown"])]

theorem contacts_deliver : contactsForm.rules.Delivers contactMessages where
  distinct := by decide
  inhabited := by decide
  addresses := by decide

/-- The name shows the repeated message once, and the report of the validation is shown again. -/
theorem receive_contactMessages :
    (contactsCompiler.compile contacts).result = .ok contactsForm ∧
      contactsEngine.rules = contactsForm.rules ∧
      contactsEngine.rules.Delivers contactMessages ∧ namelessContact.isAddressable = true ∧
      (contactsEngine.receive (.ofMessages contactMessages)).1 = true ∧
      (contactsEngine.receive (.ofMessages contactMessages)).2.report.issues
        ⟨[.index 0, .key "name"]⟩ = [⟨"taken", .server⟩] ∧
      ∀ path, let (_, checked) := contactsEngine.validateValues namelessContact
        let (_, next) := checked.receive (.ofMessages checked.report.shown)
        next.report.issues path = (checked.report.messages path).map (Issue.mk · .server) := by
  have bound : contactsEngine.rules = contactsForm.rules := rfl
  obtain ⟨delivered, sentBack⟩ := Engine.feedback_reaches_fields contacts_compile bound
  obtain ⟨accepted, _, shown⟩ := delivered contactMessages contacts_deliver
  have addressable : namelessContact.isAddressable = true := by decide
  exact ⟨contacts_compile, bound, contacts_deliver, addressable, accepted.mpr (by decide),
    shown _ List.mem_cons_self, sentBack namelessContact addressable⟩

end Forms
