/-
This file holds the feedback of a server on a submitted form. Feedback names fields by the texts of
their paths, in the order in which the server sent them.
-/

import Forms.Catalog

namespace Forms

/-- A notice is a text, or the key of a message with its arguments. -/
inductive Notice where
  | text (content : String)
  | keyed (key : String) (arguments : List Json)
deriving DecidableEq, Repr

def Notice.localize (notice : Notice) (catalog : Catalog) : String :=
  match notice with
  | .text content => content
  | .keyed key arguments => catalog.formatJson key arguments

/-- Each path occurs once and has at least one notice. -/
structure Feedback where
  entries : List (String × List Notice)
  distinct : (entries.map Prod.fst).Nodup
  inhabited : ∀ entry ∈ entries, entry.2 ≠ []

namespace Feedback

instance : DecidableEq Feedback := fun first second =>
  if same : first.entries = second.entries then
    isTrue (by cases first; cases second; cases same; rfl)
  else
    isFalse fun equal => same (by rw [equal])

def empty : Feedback := ⟨[], .nil, by simp⟩

/-- A notice joins the earlier notices for its path. A new path comes last. -/
def addTo (path : String) (notice : Notice) :
    List (String × List Notice) → List (String × List Notice)
  | [] => [(path, [notice])]
  | entry :: rest =>
      if entry.1 = path then (entry.1, entry.2 ++ [notice]) :: rest
      else entry :: addTo path notice rest

theorem addTo_paths (path : String) (notice : Notice) (entries : List (String × List Notice)) :
    (addTo path notice entries).map Prod.fst =
      if path ∈ entries.map Prod.fst then entries.map Prod.fst
      else entries.map Prod.fst ++ [path] := by
  induction entries with
  | nil => simp [addTo]
  | cons entry rest inductionHypothesis =>
      unfold addTo
      split <;> grind

theorem addTo_distinct (path : String) (notice : Notice) {entries : List (String × List Notice)}
    (distinct : (entries.map Prod.fst).Nodup) :
    ((addTo path notice entries).map Prod.fst).Nodup := by
  rw [addTo_paths]
  split
  · exact distinct
  · next absent => exact List.nodup_append.mpr ⟨distinct, by simp, by grind⟩

theorem addTo_inhabited (path : String) (notice : Notice) {entries : List (String × List Notice)}
    (inhabited : ∀ entry ∈ entries, entry.2 ≠ []) :
    ∀ entry ∈ addTo path notice entries, entry.2 ≠ [] := by
  induction entries with
  | nil => simp [addTo]
  | cons first rest inductionHypothesis =>
      obtain ⟨head, tail⟩ := List.forall_mem_cons.mp inhabited
      unfold addTo
      split
      · exact List.forall_mem_cons.mpr ⟨by simp, tail⟩
      · exact List.forall_mem_cons.mpr ⟨head, inductionHypothesis tail⟩

def add (feedback : Feedback) (path : String) (notice : Notice) : Feedback :=
  ⟨addTo path notice feedback.entries, addTo_distinct path notice feedback.distinct,
    addTo_inhabited path notice feedback.inhabited⟩

/-- Notices are added one after the other. -/
def addAll (feedback : Feedback) (notices : List (String × Notice)) : Feedback :=
  notices.foldl (fun current notice => current.add notice.1 notice.2) feedback

def ofNotices (notices : List (String × Notice)) : Feedback := empty.addAll notices

/-- A list of texts for each path. -/
def ofPairs (pairs : List (String × List String)) : Feedback :=
  ofNotices (pairs.flatMap fun pair => pair.2.map fun text => (pair.1, .text text))

/-- The notices in the order of their paths. -/
def notices (feedback : Feedback) : List (String × Notice) :=
  feedback.entries.flatMap fun entry => entry.2.map fun notice => (entry.1, notice)

def size (feedback : Feedback) : Nat := feedback.entries.length

def isEmpty (feedback : Feedback) : Bool := feedback.entries.isEmpty

/-- The texts of one path. -/
def readTexts (path : String) : List Json → Decoded (List (String × Notice))
  | [] => .ok []
  | .string text :: items => do
      let notices ← readTexts path items
      .ok ((path, .text text) :: notices)
  | _ :: _ => .error (.messageNotText path)

/-- An object maps each path to one text or to a list of texts. -/
def readMembers : List (String × Json) → Decoded (List (String × Notice))
  | [] => .ok []
  | (path, .string text) :: members => do
      let notices ← readMembers members
      .ok ((path, .text text) :: notices)
  | (path, .array items) :: members => do
      let texts ← readTexts path items
      let notices ← readMembers members
      .ok (texts ++ notices)
  | (path, _) :: _ => .error (.messagesNotTexts path)

def entryShape : RecordShape :=
  ⟨"KeyedEntry", ["field_path", "error_key", "error_params", "message"],
    ["error_key", "error_params", "message"]⟩

/-- One field of an entry of a list. -/
inductive EntryField where
  | path (text : String)
  | key (text : Option String)
  | arguments (values : List Json)
  | message (text : Option String)

def readEntryField (name : String) (value : Json) : Decoded EntryField :=
  match name with
  | "field_path" => EntryField.path <$> value.toText
  | "error_key" => EntryField.key <$> value.toOptionalText
  | "error_params" => EntryField.arguments <$> value.toItems
  | _ => EntryField.message <$> value.toOptionalText

/-- An entry of a list with what is absent so far. -/
structure Entry where
  path : String := ""
  key : Option String := none
  arguments : List Json := []
  message : Option String := none

def Entry.add (entry : Entry) : EntryField → Entry
  | .path text => { entry with path := text }
  | .key text => { entry with key := text }
  | .arguments values => { entry with arguments := values }
  | .message text => { entry with message := text }

/-- A key comes before a text. An entry has at least one of them. -/
def Entry.notice (entry : Entry) : Decoded (String × Notice) :=
  match entry.key, entry.message with
  | some key, _ => .ok (entry.path, .keyed key entry.arguments)
  | none, some text => .ok (entry.path, .text text)
  | none, none => .error (.entryWithoutMessage entry.path)

def readEntry (value : Json) : Decoded (String × Notice) := do
  let fields ← entryShape.read readEntryField value
  Entry.notice (fields.foldl (fun entry field => entry.add field.2) {})

/-- Feedback is an object, a list of entries, or null. -/
def ofJson : Json → Decoded Feedback
  | .null => .ok empty
  | .object members => ofNotices <$> readMembers members
  | .array items => ofNotices <$> items.mapM readEntry
  | other => .error (.notFeedback other)

/-- The entry of a list that stands for one notice. -/
def noticeJson (notice : String × Notice) : Json :=
  match notice with
  | (path, .text text) => .object [("field_path", .string path), ("message", .string text)]
  | (path, .keyed key arguments) => .object [
      ("field_path", .string path), ("error_key", .string key),
      ("error_params", .array arguments)]

def toJson (feedback : Feedback) : Json := .array (feedback.notices.map noticeJson)

end Feedback

end Forms
