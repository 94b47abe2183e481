/-
This file holds the documents that deliver a form together with the feedback on its last submission.
-/

import Forms.Feedback
import Forms.Schema.Decode

namespace Forms

structure Document where
  form : Schema
  feedback : Feedback := .empty

namespace Document

def shape : RecordShape := ⟨"FormDocument", ["main_form", "errors"], ["errors"]⟩

/-- One field of a document. -/
inductive Field where
  | form (form : Schema)
  | feedback (feedback : Feedback)

def readField (name : String) (value : Json) : Decoded Field :=
  match name with
  | "main_form" => Field.form <$> Schema.ofJson value
  | _ => Field.feedback <$> Feedback.ofJson value

/-- The feedback of a text is read as one value first. -/
def readDraftField (room : Nat) (name : String) (draft : Draft) : Decoded Field :=
  match name with
  | "main_form" => Field.form <$> Schema.ofDraft room draft
  | _ =>
      match draft.toJson? room with
      | some value => Field.feedback <$> Feedback.ofJson value
      | none => .error .notJson

/-- The form has to be present. -/
def ofFields (fields : List (String × Field)) : Decoded Document :=
  let collected : Option Schema × Feedback := fields.foldl (fun collected field => match field.2 with
    | .form form => (some form, collected.2)
    | .feedback feedback => (collected.1, feedback)) (none, .empty)
  match collected with
  | (some form, feedback) => .ok ⟨form, feedback⟩
  | (none, _) => .error (.missingField "main_form")

def ofJson (value : Json) : Decoded Document := do
  let fields ← shape.read readField value
  ofFields fields

/-- A document of a text has to be followed by spaces only. -/
def ofText (text : String) : Decoded Document := do
  let (draft, rest) := Draft.ofText text
  let fields ← shape.readDraft readDraftField Draft.nestingRoom draft
  let document ← ofFields fields
  if Draft.endsText rest then .ok document else .error .notJson

end Document

end Forms
