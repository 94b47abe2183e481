/-
This file proves that feedback survives its wire forms: reading what was written gives the same notices
for the same paths in the same order.
-/

import Forms.Proofs.Feedback.Grouping

namespace Forms

namespace Feedback

/-- The object that maps each path to a list of texts. -/
def textsJson (pairs : List (String × List String)) : Json :=
  .object (pairs.map fun pair => (pair.1, .array (pair.2.map .string)))

theorem eq_of_entries_eq {left right : Feedback} (same : left.entries = right.entries) :
    left = right := by
  cases left
  cases right
  cases same
  rfl

section List

/-- The groups of feedback are its entries, so its notices give the feedback again. -/
theorem ofNotices_notices (feedback : Feedback) : ofNotices feedback.notices = feedback :=
  eq_of_entries_eq (entries_ofNotices feedback.distinct feedback.inhabited)

/-- The entry of a notice is read as the notice. -/
theorem readEntry_noticeJson (notice : String × Notice) : readEntry (noticeJson notice) = .ok notice := by
  obtain ⟨path, notice⟩ := notice
  cases notice with
  | text content => rfl
  | keyed key arguments => rfl

theorem mapM_readEntry (notices : List (String × Notice)) :
    (notices.map noticeJson).mapM readEntry = .ok notices := by
  induction notices with
  | nil => rfl
  | cons notice notices inductionHypothesis =>
      rw [List.map_cons, List.mapM_cons, readEntry_noticeJson, inductionHypothesis]
      rfl

theorem ofJson_toJson (feedback : Feedback) : ofJson feedback.toJson = .ok feedback := by
  rw [toJson, ofJson, mapM_readEntry]
  exact congrArg Except.ok feedback.ofNotices_notices

end List

section Object

theorem readTexts_strings (path : String) (texts : List String) :
    readTexts path (texts.map .string) = .ok (texts.map fun text => (path, .text text)) := by
  induction texts with
  | nil => rfl
  | cons text texts inductionHypothesis =>
      rw [List.map_cons, readTexts, inductionHypothesis]
      rfl

theorem readMembers_texts (pairs : List (String × List String)) :
    readMembers (pairs.map fun pair => (pair.1, .array (pair.2.map .string))) =
      .ok (pairs.flatMap fun pair => pair.2.map fun text => (pair.1, .text text)) := by
  induction pairs with
  | nil => rfl
  | cons pair pairs inductionHypothesis =>
      rw [List.map_cons, readMembers, readTexts_strings, inductionHypothesis]
      rfl

/-- An object of texts is read as the pairs of its members. -/
theorem ofJson_textsJson (pairs : List (String × List String)) :
    ofJson (textsJson pairs) = .ok (ofPairs pairs) := by
  rw [textsJson, ofJson, readMembers_texts]
  rfl

/-- Feedback that holds texts only is the feedback of its texts. -/
theorem ofPairs_texts {feedback : Feedback} {pairs : List (String × List String)}
    (texts : feedback.entries = pairs.map fun pair => (pair.1, pair.2.map .text)) :
    ofPairs pairs = feedback := by
  apply eq_of_entries_eq
  rw [texts]
  apply entries_ofPairs
  · have distinct := feedback.distinct
    rwa [texts, List.map_map] at distinct
  · intro pair member empty
    have listed : (pair.1, pair.2.map Notice.text) ∈ feedback.entries := by
      rw [texts]
      exact List.mem_map_of_mem member
    have inhabited := feedback.inhabited _ listed
    rw [empty] at inhabited
    exact inhabited rfl

end Object

/-- Feedback is read again from the list of its notices, with the same notices for the same paths in the
same order. Feedback that holds texts only is also read again from the object that maps each of its
paths, in their order, to the texts. -/
theorem wire_roundTrip (feedback : Feedback) :
    ofJson feedback.toJson = .ok feedback ∧
      ∀ pairs : List (String × List String),
        feedback.entries = pairs.map (fun pair => (pair.1, pair.2.map .text)) →
          ofJson (textsJson pairs) = .ok feedback := by
  refine ⟨feedback.ofJson_toJson, fun pairs texts => ?_⟩
  rw [ofJson_textsJson, ofPairs_texts texts]

/-- Texts that come mixed for two paths are read again path by path. -/
theorem wire_roundTrip_mixed :
    let feedback := ofNotices
      [("name", .text "taken"), ("age", .text "too low"), ("name", .text "too rude")]
    feedback.entries =
        [("name", [.text "taken", .text "too rude"]), ("age", [.text "too low"])] ∧
      ofJson (textsJson [("name", ["taken", "too rude"]), ("age", ["too low"])]) = .ok feedback :=
  ⟨rfl, (wire_roundTrip _).2 [("name", ["taken", "too rude"]), ("age", ["too low"])] rfl⟩

end Feedback

end Forms
