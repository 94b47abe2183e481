/-
This file proves which lists are read as feedback and what their feedback is written as. Every item of the
list has to be an entry with a message, and the feedback has the entries of the list path by path.
-/

import Forms.Proofs.Feedback.Grouping
import Forms.Proofs.Json.Records

namespace Forms

namespace Feedback

section Entries

/-- A path is a text, and arguments are an array. A key and a message are texts, and null stands for an
absent one. -/
def FitsField (name : String) (value : Json) : Prop :=
  match name with
  | "field_path" => ∃ text, value = .string text
  | "error_params" => ∃ arguments, value = .array arguments
  | _ => value = .null ∨ ∃ text, value = .string text

/-- An item is an entry when it has the form of one and each of its fields has its own form. -/
structure IsEntry (item : Json) : Prop where
  shape : entryShape.Fits item
  fields : ∀ part ∈ entryShape.given item, FitsField part.1 part.2

/-- The value that an item gives for a field. Of repeated members the last one counts. -/
def field? (item : Json) (name : String) : Option Json := (entryShape.given item).reverse.lookup name

/-- The text that an item gives for a field. Null gives no text. -/
def text? (item : Json) (name : String) : Option String := (field? item name).bind Json.string?

def HasMessage (item : Json) : Prop := (text? item "error_key").isSome ∨ (text? item "message").isSome

/-- The entry that an item stands for. A key is written with its arguments, and without a key there is the
message. -/
def rewritten (item : Json) : Json :=
  let path := Json.string ((text? item "field_path").getD "")
  match text? item "error_key" with
  | some key => .object [
      ("field_path", path), ("error_key", .string key),
      ("error_params", (field? item "error_params").getD (.array []))]
  | none => .object [
      ("field_path", path), ("message", .string ((text? item "message").getD ""))]

end Entries

section Reading

variable {item : Json} {name : String} {value : Json}

/-- The field of an entry that a value stands for when it fits. -/
def EntryField.ofJson (name : String) (value : Json) : EntryField :=
  match name with
  | "field_path" => .path (value.string?.getD "")
  | "error_key" => .key value.string?
  | "error_params" => .arguments (value.toItems.toOption.getD [])
  | _ => .message value.string?

theorem readEntryField_eq_ok_iff {field : EntryField} :
    readEntryField name value = .ok field ↔
      FitsField name value ∧ EntryField.ofJson name value = field := by
  unfold readEntryField FitsField EntryField.ofJson
  split <;> rw [map_eq_ok_iff] <;> cases value <;>
    simp [Json.toText, Json.toOptionalText, Json.toItems, Json.string?, Json.expected, Except.toOption]

/-- The entry that the parts of an item make up. -/
def Entry.ofParts (parts : List (String × Json)) : Entry :=
  let text (name : String) := (parts.reverse.lookup name).bind Json.string?
  { path := (text "field_path").getD ""
    key := text "error_key"
    arguments := ((parts.reverse.lookup "error_params").bind (·.toItems.toOption)).getD []
    message := text "message" }

/-- Fields join an entry one after the other, and a later field replaces an earlier one of its name. -/
theorem foldl_add_ofJson {parts : List (String × Json)}
    (known : ∀ part ∈ parts, part.1 ∈ entryShape.fields) :
    parts.foldl (fun entry part => entry.add (.ofJson part.1 part.2)) {} = Entry.ofParts parts := by
  induction parts using List.reverseRecOn with
  | nil => rfl
  | append_singleton parts part inductionHypothesis =>
      obtain ⟨name, value⟩ := part
      have named : name ∈ entryShape.fields := known (name, value) (by simp)
      rw [List.foldl_concat, inductionHypothesis fun part member => known part (by simp [member])]
      simp only [entryShape, List.mem_cons, List.not_mem_nil, or_false] at named
      rcases named with rfl | rfl | rfl | rfl <;>
        simp [Entry.ofParts, EntryField.ofJson, Entry.add, List.lookup_cons]

theorem forall₂_readsAs_iff {parts : List (String × Json)} {fields : List (String × EntryField)} :
    List.Forall₂ (RecordShape.ReadsAs readEntryField) parts fields ↔
      (∀ part ∈ parts, FitsField part.1 part.2) ∧
        parts.map (fun part => (part.1, EntryField.ofJson part.1 part.2)) = fields := by
  induction parts generalizing fields with
  | nil => simp [eq_comm]
  | cons part parts inductionHypothesis =>
      rw [List.forall₂_cons_left_iff, List.forall_mem_cons, List.map_cons]
      simp only [inductionHypothesis, RecordShape.ReadsAs, readEntryField_eq_ok_iff]
      constructor
      · rintro ⟨⟨_, _⟩, _, ⟨rfl, fits, rfl⟩, ⟨later, rfl⟩, rfl⟩
        exact ⟨⟨fits, later⟩, rfl⟩
      · rintro ⟨⟨fits, later⟩, rfl⟩
        exact ⟨_, _, ⟨rfl, fits, rfl⟩, ⟨later, rfl⟩, rfl⟩

/-- An item is read when it is an entry, as the notice of what it gives. -/
theorem readEntry_eq_ok_iff {notice : String × Notice} :
    readEntry item = .ok notice ↔
      IsEntry item ∧ (Entry.ofParts (entryShape.given item)).notice = .ok notice := by
  have collected : ((entryShape.given item).map fun part =>
      (part.1, EntryField.ofJson part.1 part.2)).foldl (fun entry field => entry.add field.2) {} =
        Entry.ofParts (entryShape.given item) := by
    rw [List.foldl_map]
    exact foldl_add_ofJson fun _ => RecordShape.name_mem_of_mem_given
  rw [readEntry, bind_eq_ok_iff]
  simp only [RecordShape.read_eq_ok_iff, forall₂_readsAs_iff]
  constructor
  · rintro ⟨_, ⟨shape, fields, rfl⟩, read⟩
    rw [collected] at read
    exact ⟨⟨shape, fields⟩, read⟩
  · rintro ⟨⟨shape, fields⟩, read⟩
    refine ⟨_, ⟨shape, fields, rfl⟩, ?_⟩
    rw [collected]
    exact read

theorem exists_notice_iff :
    (∃ notice, (Entry.ofParts (entryShape.given item)).notice = .ok notice) ↔ HasMessage item := by
  change (∃ notice, Entry.notice ⟨_, text? item "error_key", _, text? item "message"⟩ = .ok notice) ↔ _
  rw [HasMessage]
  cases text? item "error_key" <;> cases text? item "message" <;> simp [Entry.notice]

/-- Arguments of an entry are an array. -/
theorem field?_arguments (entry : IsEntry item) :
    (field? item "error_params").getD (.array []) =
      .array (((field? item "error_params").bind (·.toItems.toOption)).getD []) := by
  cases given : field? item "error_params" with
  | none => rfl
  | some value =>
      obtain ⟨before, after, split, _⟩ := List.lookup_eq_some_iff.mp given
      have listed : ("error_params", value) ∈ entryShape.given item := by
        rw [← List.mem_reverse, split]
        simp
      obtain ⟨arguments, rfl⟩ := entry.fields _ listed
      rfl

/-- The notice of an entry is written as the entry without what is not needed. -/
theorem noticeJson_eq_rewritten (entry : IsEntry item) {notice : String × Notice}
    (read : (Entry.ofParts (entryShape.given item)).notice = .ok notice) :
    noticeJson notice = rewritten item := by
  change Entry.notice ⟨_, text? item "error_key", _, text? item "message"⟩ = .ok notice at read
  rw [rewritten, field?_arguments entry]
  cases keyed : text? item "error_key" with
  | some key =>
      rw [keyed] at read
      cases read
      rfl
  | none =>
      cases written : text? item "message" with
      | none =>
          rw [keyed, written] at read
          cases read
      | some text =>
          rw [keyed, written] at read
          cases read
          rfl

end Reading

/-- An item has feedback when it is an entry with a message. -/
theorem exists_readEntry_iff {item : Json} :
    (∃ notice, readEntry item = .ok notice) ↔ IsEntry item ∧ HasMessage item := by
  simp only [readEntry_eq_ok_iff, exists_and_left, exists_notice_iff]

theorem rewritten_of_readEntry {item : Json} {notice : String × Notice}
    (read : readEntry item = .ok notice) : rewritten item = noticeJson notice := by
  obtain ⟨entry, found⟩ := readEntry_eq_ok_iff.mp read
  exact (noticeJson_eq_rewritten entry found).symm

theorem groupedBy_noticeJson (notices : List (String × Notice)) :
    groupedBy (Json.member? · "field_path") (notices.map noticeJson) =
      (groupedBy Prod.fst notices).map noticeJson := by
  have pathOf : (fun notice : String × Notice => (noticeJson notice).member? "field_path") =
      (some ∘ Json.string) ∘ Prod.fst := by
    funext notice
    obtain ⟨path, content | ⟨key, arguments⟩⟩ := notice <;> rfl
  have injective : Function.Injective (some ∘ Json.string) := by
    intro first second same
    simpa using same
  rw [groupedBy_map]
  change (groupedBy (fun notice => (noticeJson notice).member? "field_path") notices).map noticeJson = _
  rw [pathOf, groupedBy_comp injective]

/-- A list is read as feedback exactly when each item is an entry with a key or a text. The feedback is
written as a list again. This list has one entry for each item, and the entries stand path by path: the
paths have the order in which they first occur, and the entries of one path keep their order. A list with
another item gives a fault and no feedback. -/
theorem list_regrouped (items : List Json) :
    ((∃ fault, ofJson (.array items) = .error fault) ↔
      ∃ item ∈ items, ¬ (IsEntry item ∧ HasMessage item)) ∧
    ∀ feedback, ofJson (.array items) = .ok feedback →
      feedback.toJson = .array (groupedBy (Json.member? · "field_path") (items.map rewritten)) ∧
        (groupedBy (Json.member? · "field_path") (items.map rewritten)).Perm (items.map rewritten) := by
  constructor
  · have accepted : (∃ feedback, ofJson (.array items) = .ok feedback) ↔
        ∀ item ∈ items, IsEntry item ∧ HasMessage item := by
      simp only [ofJson, map_eq_ok_iff, exists_comm (α := Feedback), exists_eq_right']
      rw [exists_mapM_eq_ok_iff]
      exact forall₂_congr fun _ _ => exists_readEntry_iff
    rw [exists_error_iff, accepted]
    simp only [not_forall, exists_prop]
  · intro feedback read
    obtain ⟨notices, readAll, collected⟩ := map_eq_ok_iff.mp read
    have rewrittenAll : items.map rewritten = notices.map noticeJson := by
      rw [mapM_eq_ok_iff] at readAll
      rw [← List.forall₂_eq_eq_eq, List.forall₂_map_left_iff, List.forall₂_map_right_iff]
      exact readAll.imp fun item notice => rewritten_of_readEntry
    refine ⟨?_, groupedBy_perm _ _⟩
    rw [toJson, ← collected, notices_ofNotices, rewrittenAll, groupedBy_noticeJson]

/-- Entries for two paths that take turns. One has a key and a text, and two are written as arrays. -/
def mixedItems : List Json := [
  .object [("field_path", .string "mail"), ("message", .string "in use"), ("error_key", .string "taken")],
  .object [("error_key", .null), ("message", .string "too low"), ("field_path", .string "age")],
  .array [.string "mail", .string "banned", .array [.string "example.org"]],
  .array [.string "age", .null, .array [], .string "no number"]]

def mixedFeedback : Feedback := ofNotices [
  ("mail", .keyed "taken" []), ("age", .text "too low"), ("mail", .keyed "banned" [.string "example.org"]),
  ("age", .text "no number")]

/-- The entries for the first path come first. A further item without a message spoils the list. -/
theorem list_regrouped_mixed :
    ofJson (.array mixedItems) = .ok mixedFeedback ∧
      mixedFeedback.toJson = .array [
        .object [
          ("field_path", .string "mail"), ("error_key", .string "taken"), ("error_params", .array [])],
        .object [
          ("field_path", .string "mail"), ("error_key", .string "banned"),
          ("error_params", .array [.string "example.org"])],
        .object [("field_path", .string "age"), ("message", .string "too low")],
        .object [("field_path", .string "age"), ("message", .string "no number")]] ∧
      ∃ fault,
        ofJson (.array (mixedItems ++ [.object [("field_path", .string "age")]])) = .error fault := by
  have reads : ofJson (.array mixedItems) = .ok mixedFeedback := rfl
  have written := ((list_regrouped mixedItems).2 mixedFeedback reads).1
  refine ⟨reads, written.trans rfl, ?_⟩
  refine (list_regrouped _).1.mpr ⟨.object [("field_path", .string "age")], by simp, ?_⟩
  rintro ⟨_, hasKey | hasText⟩
  · cases hasKey
  · cases hasText

end Feedback

end Forms
