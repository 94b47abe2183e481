/-
This file proves what an engine makes of any feedback. Every path has the notices of all entries whose
texts name the path, whatever the spelling of the texts, and entries that name no field leave no trace.
-/

import Forms.Proofs.Engine.Validation

namespace Forms

namespace Feedback

/-- The messages for a path come from all entries whose text names the path, entry by entry. -/
def messagesAt (feedback : Feedback) (catalog : Catalog) (path : Path) : List String :=
  feedback.entries.flatMap fun entry =>
    if Path.ofText entry.1 = .ok path then entry.2.map (Notice.localize · catalog) else []

/-- The feedback without the entries whose text is not kept. -/
def keepOnly (feedback : Feedback) (keeps : String → Bool) : Feedback where
  entries := feedback.entries.filter fun entry => keeps entry.1
  distinct := (List.filter_sublist.map Prod.fst).nodup feedback.distinct
  inhabited := fun entry member => feedback.inhabited entry (List.mem_of_mem_filter member)

theorem messagesAt_ne_nil_iff {feedback : Feedback} {catalog : Catalog} {path : Path} :
    feedback.messagesAt catalog path ≠ [] ↔
      ∃ entry ∈ feedback.entries, Path.ofText entry.1 = .ok path := by
  rw [messagesAt, ne_eq, List.flatMap_eq_nil_iff]
  constructor
  · intro present
    by_contra unnamed
    refine present fun entry member => if_neg fun named => unnamed ⟨entry, member, named⟩
  · rintro ⟨entry, member, named⟩ silent
    have nothing := silent entry member
    rw [if_pos named, List.map_eq_nil_iff] at nothing
    exact feedback.inhabited entry member nothing

end Feedback

namespace Rulebook

/-- A text names a field of the form when it can be read, names a concrete path, and an entry governs
the path. -/
def hasFieldFor (book : Rulebook) (text : String) : Bool :=
  match Path.ofText text with
  | .error _ => false
  | .ok path => !path.isTemplate && book.accepts path

theorem hasFieldFor_iff {book : Rulebook} {text : String} :
    book.hasFieldFor text = true ↔
      ∃ path, Path.ofText text = .ok path ∧ path.isTemplate = false ∧ book.accepts path = true := by
  unfold hasFieldFor
  split
  · next unread => simp [unread]
  · next path read => simp [read]

end Rulebook

namespace Engine

variable {engine : Engine} {feedback : Feedback} {path : Path}

/-- A text leads to a field exactly when it names a concrete path that an entry governs. -/
theorem field_eq_ok_iff {text : String} :
    engine.field text = .ok path ↔
      Path.ofText text = .ok path ∧ path.isTemplate = false ∧ engine.rules.accepts path = true := by
  unfold field
  split
  · next unread => simp [unread]
  · next named read =>
      rw [read, Except.ok.injEq]
      constructor
      · intro found
        split at found
        · cases found
        · next concrete =>
            split at found
            · next accepted =>
                cases found
                exact ⟨rfl, Bool.eq_false_iff.mpr concrete, accepted⟩
            · cases found
      · rintro ⟨rfl, concrete, accepted⟩
        rw [concrete, accepted]
        rfl

/-- The issues of one entry of feedback. -/
def entryIssues (engine : Engine) (entry : String × List Notice) : List (Path × Issue) :=
  match engine.field entry.1 with
  | .ok path => entry.2.map fun notice => (path, ⟨notice.localize engine.catalog, .server⟩)
  | .error _ => []

theorem feedbackIssues_eq (engine : Engine) (feedback : Feedback) :
    engine.feedbackIssues feedback = feedback.entries.flatMap engine.entryIssues := rfl

theorem entryIssues_of_field {entry : String × List Notice} (named : engine.field entry.1 = .ok path) :
    engine.entryIssues entry =
      (entry.2.map (Notice.localize · engine.catalog)).map fun message => (path, ⟨message, .server⟩) := by
  rw [entryIssues, named, List.map_map]
  rfl

/-- An entry that names no field has no issues. -/
theorem entryIssues_of_unknown {entry : String × List Notice}
    (unknown : engine.rules.hasFieldFor entry.1 = false) : engine.entryIssues entry = [] := by
  unfold entryIssues
  split
  · next path named =>
      have known := Rulebook.hasFieldFor_iff.mpr ⟨path, field_eq_ok_iff.mp named⟩
      rw [unknown] at known
      cases known
  · rfl

/-- An entry has issues of the one field that its text names. -/
theorem issuesAt_entryIssues (entry : String × List Notice) :
    Report.issuesAt path (engine.entryIssues entry) =
      if engine.field entry.1 = .ok path then
        (entry.2.map (Notice.localize · engine.catalog)).map (Issue.mk · .server)
      else [] := by
  cases named : engine.field entry.1 with
  | error fault =>
      rw [entryIssues, named]
      rfl
  | ok other =>
      rw [entryIssues_of_field named, Report.issuesAt_map]
      simp only [Except.ok.injEq]

/-- At the path of a field the feedback has the messages of all entries for the path. -/
theorem issuesAt_feedbackIssues (concrete : path.isTemplate = false)
    (accepted : engine.rules.accepts path = true) :
    Report.issuesAt path (engine.feedbackIssues feedback) =
      (feedback.messagesAt engine.catalog path).map (Issue.mk · .server) := by
  rw [feedbackIssues_eq, Report.issuesAt_flatMap, Feedback.messagesAt, List.map_flatMap]
  refine List.flatMap_congr fun entry _ => ?_
  have named : engine.field entry.1 = .ok path ↔ Path.ofText entry.1 = .ok path := by
    rw [field_eq_ok_iff]
    exact and_iff_left ⟨concrete, accepted⟩
  rw [issuesAt_entryIssues]
  by_cases same : Path.ofText entry.1 = .ok path
  · rw [if_pos same, if_pos (named.mpr same)]
  · rw [if_neg same, if_neg fun found => same (named.mp found)]
    rfl

/-- At a path that is no field the feedback has nothing. -/
theorem issuesAt_feedbackIssues_eq_nil
    (noField : ¬(path.isTemplate = false ∧ engine.rules.accepts path = true)) :
    Report.issuesAt path (engine.feedbackIssues feedback) = [] := by
  rw [feedbackIssues_eq, Report.issuesAt_flatMap]
  refine List.flatMap_eq_nil_iff.mpr fun entry _ => ?_
  rw [issuesAt_entryIssues, if_neg]
  exact fun named => noField (field_eq_ok_iff.mp named).2

/-- Entries that name no field can be left out before the feedback is received. -/
theorem feedbackIssues_keepOnly (engine : Engine) (feedback : Feedback) :
    engine.feedbackIssues (feedback.keepOnly engine.rules.hasFieldFor) =
      engine.feedbackIssues feedback := by
  change (feedback.entries.filter fun entry => engine.rules.hasFieldFor entry.1).flatMap
    engine.entryIssues = feedback.entries.flatMap engine.entryIssues
  induction feedback.entries with
  | nil => rfl
  | cons entry entries inductionHypothesis =>
      cases known : engine.rules.hasFieldFor entry.1 with
      | true =>
          simp only [List.filter_cons, known, if_true, List.flatMap_cons, inductionHypothesis]
      | false =>
          simp only [List.filter_cons, known, Bool.false_eq_true, if_false, List.flatMap_cons,
            entryIssues_of_unknown known, List.nil_append, inductionHypothesis]

/-- The issues after feedback are those of the fields that it names. -/
theorem issues_receive (engine : Engine) (feedback : Feedback) (path : Path) :
    (engine.receive feedback).2.report.issues path =
      if path.isTemplate = false ∧ engine.rules.accepts path = true then
        (shownMessages engine.options.deduplicate
          (feedback.messagesAt engine.catalog path)).map (Issue.mk · .server)
      else [] := by
  split
  · next field => exact Report.issues_ofIssues (issuesAt_feedbackIssues field.1 field.2)
  · next noField => exact Report.issues_ofIssues_eq_nil _ (issuesAt_feedbackIssues_eq_nil noField)

/-- The verdict on feedback says whether any entry names a field. -/
theorem accepted_receive_iff (engine : Engine) (feedback : Feedback) :
    (engine.receive feedback).1 = true ↔
      ∃ entry ∈ feedback.entries, engine.rules.hasFieldFor entry.1 = true := by
  have verdict : (engine.receive feedback).1 = (engine.receive feedback).2.hasErrors := rfl
  rw [verdict, hasErrors_iff]
  simp only [Rulebook.hasFieldFor_iff]
  constructor
  · rintro ⟨path, shown⟩
    rw [issues_receive] at shown
    split at shown
    · next field =>
        rw [ne_eq, List.map_eq_nil_iff] at shown
        obtain ⟨entry, member, named⟩ :=
          Feedback.messagesAt_ne_nil_iff.mp (shownMessages_ne_nil.mp shown)
        exact ⟨entry, member, path, named, field⟩
    · exact absurd rfl shown
  · rintro ⟨entry, member, path, named, field⟩
    refine ⟨path, ?_⟩
    rw [issues_receive, if_pos field, ne_eq, List.map_eq_nil_iff]
    exact shownMessages_ne_nil.mpr (Feedback.messagesAt_ne_nil_iff.mpr ⟨entry, member, named⟩)

/-- Feedback is received exactly, whatever the engine showed before. Every field has the messages of all
entries whose texts name it, in the order of the entries, and of repeated messages the first one when the
options ask for it. Other paths have none. Entries that name no field can be left out without any effect
on the verdict, the report and the changes. The verdict says whether an entry names a field. -/
theorem receive_exact (engine : Engine) (feedback : Feedback) :
    let (accepted, next) := engine.receive feedback
    (∀ path, next.report.issues path =
      if path.isTemplate = false ∧ engine.rules.accepts path = true then
        (shownMessages engine.options.deduplicate
          (feedback.messagesAt engine.catalog path)).map (Issue.mk · .server)
      else []) ∧
      engine.receive (feedback.keepOnly engine.rules.hasFieldFor) = (accepted, next) ∧
      (accepted = true ↔ ∃ entry ∈ feedback.entries, engine.rules.hasFieldFor entry.1 = true) := by
  have withoutUnknown : engine.receive (feedback.keepOnly engine.rules.hasFieldFor) =
      engine.receive feedback := by
    rw [receive, feedbackIssues_keepOnly]
    rfl
  exact ⟨engine.issues_receive feedback, withoutUnknown, engine.accepted_receive_iff feedback⟩

end Engine

/-- Two spellings of one position are two entries of the feedback and one field of the report. -/
example :
    let feedback := Feedback.ofNotices [("[0].name", .text "taken"), ("[*].name", .text "lost"),
      ("[00].name", .text "short"), ("[+0].name", .text "taken")]
    feedback.size = 4 ∧
      (contactsEngine.receive feedback).2.report.toList =
        [(⟨[.index 0, .key "name"]⟩, [⟨"taken", .server⟩, ⟨"short", .server⟩])] := by
  decide +kernel

end Forms
