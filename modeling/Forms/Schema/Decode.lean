/-
This file reads schemas. A schema is read from a value or straight from a text. A schema that is read
from a text meets the faults of the text in the order in which they stand.
-/

import Forms.Json.Decode
import Forms.Schema.Basic

namespace Forms

namespace Declaration

/-- A declaration is the name of a check alone, or an object with the name and the parameters. -/
def ofJson : Json → Decoded Declaration
  | .string id => .ok (bare id)
  | .object members =>
      match Json.findMember "type" members with
      | some (.string id) => .ok ⟨id, (Json.findMember "params" members).getD .null⟩
      | _ => .error .noDeclaration
  | _ => .error .noDeclaration

/-- The number of members with a key. -/
def countKey (key : String) (members : List (Option String × Draft)) : Nat :=
  members.countP fun member => member.1 == some key

/-- A text may not repeat the members that a declaration needs. -/
def ofDraft (room : Nat) (draft : Draft) : Decoded Declaration :=
  match draft.toJson? room with
  | none => .error .notJson
  | some value =>
      match draft with
      | .object members _ =>
          if 1 < countKey "type" members || 1 < countKey "params" members then
            .error .noDeclaration
          else ofJson value
      | _ => ofJson value

end Declaration

namespace Schema

/-- The parts of a schema in their fixed order. -/
inductive Slot where
  | kind
  | label
  | widget
  | hint
  | checks
  | children
  | items
deriving DecidableEq, Repr

namespace Slot

def name : Slot → String
  | .kind => "type"
  | .label => "label"
  | .widget => "widget"
  | .hint => "hint"
  | .checks => "validators"
  | .children => "children"
  | .items => "items"

def all : List Slot := [.kind, .label, .widget, .hint, .checks, .children, .items]

def ofName? (name : String) : Option Slot := all.find? fun slot => slot.name == name

end Slot

def recordName : String := "SchemaNode"

/-- One part of a schema that has been read. -/
inductive Part where
  | kind (kind : Kind)
  | label (text : Option String)
  | widget (text : Option String)
  | hint (text : Option String)
  | checks (checks : List Declaration)
  | children (children : List (String × Schema))
  | items (items : Option Schema)

/-- The parts of a schema with what is missing so far. -/
structure Partial where
  kind : Option Kind := none
  label : Option String := none
  widget : Option String := none
  hint : Option String := none
  checks : List Declaration := []
  children : List (String × Schema) := []
  items : Option Schema := none

def Partial.add (collected : Partial) : Part → Partial
  | .kind kind => { collected with kind := some kind }
  | .label text => { collected with label := text }
  | .widget text => { collected with widget := text }
  | .hint text => { collected with hint := text }
  | .checks checks => { collected with checks := checks }
  | .children children => { collected with children := children }
  | .items items => { collected with items := items }

/-- Only the kind has to be present. -/
def ofParts (parts : List Part) : Decoded Schema :=
  let collected := parts.foldl Partial.add {}
  match collected.kind with
  | none => .error (.missingField Slot.kind.name)
  | some kind => .ok {
      kind, label := collected.label, widget := collected.widget, hint := collected.hint,
      checks := collected.checks, children := collected.children, items := collected.items }

/-- A kind is read from its name. -/
def kindOfName (name : String) : Decoded Kind :=
  match Kind.ofName? name with
  | some kind => .ok kind
  | none => .error (.unknownVariant name Kind.names)

/-- A kind can also be an object with the name as its only key and null as its value. -/
def kindOfJson : Json → Decoded Kind
  | .string name => kindOfName name
  | .object [(name, value)] => do
      let kind ← kindOfName name
      if value = .null then .ok kind else value.expected .unit
  | .object _ => .error .notSingleMember
  | other => other.expected .stringOrMap

def checksOfJson (value : Json) : Decoded (List Declaration) := do
  let items ← value.toItems
  items.mapM Declaration.ofJson

/-- The error of a child names the child. -/
def atChild {α : Type} (key : String) (decoded : Decoded α) : Decoded α :=
  match decoded with
  | .ok value => .ok value
  | .error error => .error (.child key error)

/-- The parts that hold no other schema. The other parts are never read here. -/
def plainPart (slot : Slot) (value : Json) : Decoded Part :=
  match slot with
  | .kind => Part.kind <$> kindOfJson value
  | .label => Part.label <$> value.toOptionalText
  | .widget => Part.widget <$> value.toOptionalText
  | .hint => Part.hint <$> value.toOptionalText
  | _ => Part.checks <$> checksOfJson value

mutual

def ofJson : Json → Decoded Schema
  | .object members => do
      let parts ← partsOfMembers members
      ofParts parts
  | .array items => do
      let parts ← partsOfItems 0 Slot.all items
      ofParts parts
  | other => other.expected (.record recordName)
termination_by structural value => value

/-- Members are read in their own order. Members that name no part are ignored. -/
def partsOfMembers : List (String × Json) → Decoded (List Part)
  | [] => .ok []
  | member :: members =>
      match partOfMember member with
      | none => partsOfMembers members
      | some decoded => do
          let part ← decoded
          let parts ← partsOfMembers members
          .ok (part :: parts)
termination_by structural members => members

def partOfMember : String × Json → Option (Decoded Part)
  | (key, value) => (Slot.ofName? key).map fun slot => partOfItem slot value
termination_by structural member => member

/-- Items are read as the parts in their order. -/
def partsOfItems (position : Nat) : List Slot → List Json → Decoded (List Part)
  | [], [] => .ok []
  | [], surplus => .error (.tooManyItems (position + surplus.length))
  | slot :: _, [] =>
      if slot = .kind then .error (.tooFewItems position recordName Slot.all.length) else .ok []
  | slot :: slots, item :: items => do
      let part ← partOfItem slot item
      let parts ← partsOfItems (position + 1) slots items
      .ok (part :: parts)
termination_by structural _ items => items

def partOfItem (slot : Slot) (value : Json) : Decoded Part :=
  match slot with
  | .children =>
      match value with
      | .object members => Part.children <$> childrenOfMembers members
      | other => other.expected .map
  | .items =>
      match value with
      | .null => .ok (.items none)
      | .object members => do
          let parts ← partsOfMembers members
          (Part.items ∘ some) <$> ofParts parts
      | .array items => do
          let parts ← partsOfItems 0 Slot.all items
          (Part.items ∘ some) <$> ofParts parts
      | other => other.expected (.record recordName)
  | slot => plainPart slot value
termination_by structural value

def childrenOfMembers : List (String × Json) → Decoded (List (String × Schema))
  | [] => .ok []
  | member :: members => do
      let child ← childOfMember member
      let children ← childrenOfMembers members
      .ok (child :: children)
termination_by structural members => members

def childOfMember : String × Json → Decoded (String × Schema)
  | (key, value) => do
      let child ← atChild key (ofJson value)
      .ok (key, child)
termination_by structural member => member

end

/-- In a text a kind starts with a quote or a brace. -/
def kindOfDraft (room : Nat) : Draft → Decoded Kind
  | .string (some name) => kindOfName name
  | .object ((some name, value) :: rest) closed =>
      if room = 0 then .error .notJson
      else do
        let kind ← kindOfName name
        match value with
        | .null => if rest.isEmpty && closed then .ok kind else .error .notJson
        | other => other.unexpected .unit
  | .keyless first => if room = 0 then .error .notJson else first.unexpected .variantIdentifier
  | _ => .error .notJson

def optionalTextOfDraft : Draft → Decoded (Option String)
  | .null => .ok none
  | .string (some text) => .ok (some text)
  | other => other.unexpected .string

def checksOfDraft (room : Nat) : Draft → Decoded (List Declaration)
  | .array items closed =>
      match room with
      | 0 => .error .notJson
      | room + 1 => do
          let checks ← items.mapM (Declaration.ofDraft room)
          if closed then .ok checks else .error .notJson
  | other => other.unexpected .sequence

/-- The children of a text are read as one value first. -/
def childrenOfDraft (room : Nat) (draft : Draft) : Decoded (List (String × Schema)) :=
  match draft with
  | .object _ _ | .keyless _ =>
      match draft.toJson? room with
      | some (.object members) => childrenOfMembers members
      | _ => .error .notJson
  | other => other.unexpected .map

/-- The parts of a text that hold no schema read from the same text. The items are never read
here. -/
def plainPartOfDraft (room : Nat) (slot : Slot) (draft : Draft) : Decoded Part :=
  match slot with
  | .kind => Part.kind <$> kindOfDraft room draft
  | .label => Part.label <$> optionalTextOfDraft draft
  | .widget => Part.widget <$> optionalTextOfDraft draft
  | .hint => Part.hint <$> optionalTextOfDraft draft
  | .checks => Part.checks <$> checksOfDraft room draft
  | _ => Part.children <$> childrenOfDraft room draft

mutual

/-- The room counts how many values may still be nested. -/
def ofDraft (room : Nat) : Draft → Decoded Schema
  | .object members closed =>
      match room with
      | 0 => .error .notJson
      | room + 1 => do
          let parts ← partsOfDraftMembers room [] members
          if closed then ofParts parts else .error .notJson
  | .array items closed =>
      match room with
      | 0 => .error .notJson
      | room + 1 => do
          let parts ← partsOfDraftItems room closed 0 Slot.all items
          ofParts parts
  | .keyless _ => .error .notJson
  | other => other.unexpected (.record recordName)
termination_by structural draft => draft

/-- A text may not repeat a part, and the parts that are ignored have to be well formed. -/
def partsOfDraftMembers (room : Nat) (seen : List Slot) :
    List (Option String × Draft) → Decoded (List Part)
  | [] => .ok []
  | member :: members =>
      match member.1.map Slot.ofName? with
      | none => .error .notJson
      | some none => if member.2.whole then partsOfDraftMembers room seen members else .error .notJson
      | some (some slot) =>
          if seen.contains slot then .error (.duplicateField slot.name)
          else do
            let part ← partOfDraftMember room slot member
            let parts ← partsOfDraftMembers room (slot :: seen) members
            .ok (part :: parts)
termination_by structural members => members

def partOfDraftMember (room : Nat) (slot : Slot) : Option String × Draft → Decoded Part
  | (_, value) =>
      if slot = .items then
        match value with
        | .null => .ok (.items none)
        | other => (Part.items ∘ some) <$> ofDraft room other
      else plainPartOfDraft room slot value
termination_by structural member => member

/-- An array that stops early is missing its parts only when it is closed. -/
def partsOfDraftItems (room : Nat) (closed : Bool) (position : Nat) :
    List Slot → List Draft → Decoded (List Part)
  | [], [] => if closed then .ok [] else .error .notJson
  | [], _ => .error .notJson
  | slot :: _, [] =>
      if !closed then .error .notJson
      else if slot = .kind then
        .error (.tooFewItems position recordName Slot.all.length)
      else .ok []
  | slot :: slots, item :: items => do
      let part ← partOfDraftItem room slot item
      let parts ← partsOfDraftItems room closed (position + 1) slots items
      .ok (part :: parts)
termination_by structural _ items => items

def partOfDraftItem (room : Nat) (slot : Slot) (value : Draft) : Decoded Part :=
  if slot = .items then
    match value with
    | .null => .ok (.items none)
    | .object members closed =>
        match room with
        | 0 => .error .notJson
        | room + 1 => do
            let parts ← partsOfDraftMembers room [] members
            if closed then (Part.items ∘ some) <$> ofParts parts else .error .notJson
    | .array items closed =>
        match room with
        | 0 => .error .notJson
        | room + 1 => do
            let parts ← partsOfDraftItems room closed 0 Slot.all items
            (Part.items ∘ some) <$> ofParts parts
    | .keyless _ => .error .notJson
    | other => other.unexpected (.record recordName)
  else plainPartOfDraft room slot value
termination_by structural value

end

/-- A value that is read from a text has to be followed by spaces only. -/
def ofText (text : String) : Decoded Schema := do
  let (draft, rest) := Draft.ofText text
  let schema ← ofDraft Draft.nestingRoom draft
  if Draft.endsText rest then .ok schema else .error .notJson

end Schema

end Forms
