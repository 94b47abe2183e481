/-
This file holds the faults that typed readers of values report, and the readers of the small shapes
that every record is made of.
-/

import Forms.Json.Draft
import Forms.Json.Printer
import Forms.Path.Reader
import Forms.Text.Quoted

namespace Forms

/-- What a reader found where it expected something else. -/
inductive Found where
  | null
  | bool (value : Bool)
  | number (value : Number)
  | string (text : String)
  | sequence
  | map
deriving DecidableEq, Repr

def Found.describe : Found → String
  | .null => "null"
  | .bool value => "boolean `" ++ toString value ++ "`"
  | .number (.int value) => "integer `" ++ (Number.int value).text ++ "`"
  | .number (.double value) => "floating point `" ++ (Number.double value).text ++ "`"
  | .string text => "string " ++ Text.quoted text
  | .sequence => "sequence"
  | .map => "map"

def Json.found : Json → Found
  | .null => .null
  | .bool value => .bool value
  | .number value => .number value
  | .string text => .string text
  | .array _ => .sequence
  | .object _ => .map

/-- What the start of a draft shows. A fault of the text shows nothing. -/
def Draft.found? : Draft → Option Found
  | .broken => none
  | .null => some .null
  | .bool value => some (.bool value)
  | .number value => value.map .number
  | .string text => text.map .string
  | .array _ _ => some .sequence
  | .object _ _ => some .map
  | .keyless _ => some .map

/-- What a reader expected. -/
inductive Expected where
  | string
  | boolean
  | sequence
  | map
  | stringOrMap
  | unit
  | variantIdentifier
  | record (name : String)
deriving DecidableEq, Repr

def Expected.describe : Expected → String
  | .string => "a string"
  | .boolean => "a boolean"
  | .sequence => "a sequence"
  | .map => "a map"
  | .stringOrMap => "string or map"
  | .unit => "unit"
  | .variantIdentifier => "variant identifier"
  | .record name => "struct " ++ name

/-- The reasons why a text or a value cannot be read as a typed value. -/
inductive DecodeError where
  /-- The text is no JSON text. -/
  | notJson
  | wrongType (found : Found) (expected : Expected)
  /-- A variant is an object with exactly one member. -/
  | notSingleMember
  | unknownVariant (name : String) (known : List String)
  | missingField (name : String)
  | duplicateField (name : String)
  | tooFewItems (count : Nat) (record : String) (size : Nat)
  | tooManyItems (count : Nat)
  /-- The value is neither form of a check declaration. -/
  | noDeclaration
  | child (key : String) (error : DecodeError)
  | path (error : PathError)
  | messageNotText (field : String)
  | messagesNotTexts (field : String)
  | entryWithoutMessage (field : String)
  | notFeedback (found : Json)
deriving Repr

namespace DecodeError

/-- The names between backticks, separated by commas. -/
def listed (names : List String) : String :=
  ", ".intercalate (names.map fun name => "`" ++ name ++ "`")

def message : DecodeError → String
  | .notJson => "syntax"
  | .wrongType found expected =>
      "invalid type: " ++ found.describe ++ ", expected " ++ expected.describe
  | .notSingleMember => "invalid value: map, expected map with a single key"
  | .unknownVariant name known =>
      "unknown variant `" ++ name ++ "`, expected one of " ++ listed known
  | .missingField name => "missing field `" ++ name ++ "`"
  | .duplicateField name => "duplicate field `" ++ name ++ "`"
  | .tooFewItems count record size =>
      "invalid length " ++ toString count ++ ", expected struct " ++ record ++ " with " ++
        toString size ++ " elements"
  | .tooManyItems count =>
      "invalid length " ++ toString count ++ ", expected fewer elements in array"
  | .noDeclaration => "data did not match any variant of untagged enum Repr"
  | .child key error => "child '" ++ key ++ "': " ++ error.message
  | .path fault => fault.message
  | .messageNotText field => "message for '" ++ field ++ "' is not a string"
  | .messagesNotTexts field =>
      "messages for '" ++ field ++ "' must be a string or a list of strings"
  | .entryWithoutMessage field => "entry for '" ++ field ++ "' has neither error_key nor message"
  | .notFeedback found => "server errors must be an object or a list, got " ++ found.text

end DecodeError

/-- A reader of type α gives a value or the first fault. -/
abbrev Decoded (α : Type) := Except DecodeError α

namespace Json

def expected {α : Type} (value : Json) (expectation : Expected) : Decoded α :=
  .error (.wrongType value.found expectation)

def toText : Json → Decoded String
  | .string text => .ok text
  | value => value.expected .string

/-- Null stands for an absent text. -/
def toOptionalText : Json → Decoded (Option String)
  | .null => .ok none
  | .string text => .ok (some text)
  | value => value.expected .string

def toFlag : Json → Decoded Bool
  | .bool value => .ok value
  | value => value.expected .boolean

def toItems : Json → Decoded (List Json)
  | .array items => .ok items
  | value => value.expected .sequence

def toMembers : Json → Decoded (List (String × Json))
  | .object members => .ok members
  | value => value.expected .map

end Json

/-- The faults of a text have no type, so they are reported as such. -/
def Draft.unexpected {α : Type} (draft : Draft) (expectation : Expected) : Decoded α :=
  match draft.found? with
  | some found => .error (.wrongType found expectation)
  | none => .error .notJson

/-- A record has named fields in a fixed order. The optional fields may be missing. -/
structure RecordShape where
  name : String
  fields : List String
  optional : List String

namespace RecordShape

/-- Members are read in their own order. Members that name no field are ignored. -/
def readMembers {α : Type} (shape : RecordShape) (readField : String → Json → Decoded α) :
    List (String × Json) → Decoded (List (String × α))
  | [] => .ok []
  | (key, value) :: members =>
      if shape.fields.contains key then do
        let field ← readField key value
        let fields ← readMembers shape readField members
        .ok ((key, field) :: fields)
      else readMembers shape readField members

/-- Items are read as the fields in their order. -/
def readItems {α : Type} (shape : RecordShape) (readField : String → Json → Decoded α)
    (position : Nat) : List String → List Json → Decoded (List (String × α))
  | [], [] => .ok []
  | [], surplus => .error (.tooManyItems (position + surplus.length))
  | name :: names, [] =>
      if shape.optional.contains name then readItems shape readField position names []
      else .error (.tooFewItems position shape.name shape.fields.length)
  | name :: names, item :: items => do
      let field ← readField name item
      let fields ← readItems shape readField (position + 1) names items
      .ok ((name, field) :: fields)

/-- The first required field that was not read. -/
def missing? {α : Type} (shape : RecordShape) (fields : List (String × α)) : Option String :=
  shape.fields.find? fun name =>
    !shape.optional.contains name && !fields.any fun field => field.1 == name

/-- A record is an object, or an array of its fields. -/
def read {α : Type} (shape : RecordShape) (readField : String → Json → Decoded α) (value : Json) :
    Decoded (List (String × α)) :=
  match value with
  | .object members => do
      let fields ← shape.readMembers readField members
      match shape.missing? fields with
      | some name => .error (.missingField name)
      | none => .ok fields
  | .array items => shape.readItems readField 0 shape.fields items
  | other => other.expected (.record shape.name)

/-- Members of a text are read in their own order. A text may not repeat a field, and members that
are ignored have to be well formed. -/
def readDraftMembers {α : Type} (shape : RecordShape) (readField : String → Draft → Decoded α)
    (seen : List String) : List (Option String × Draft) → Decoded (List (String × α))
  | [] => .ok []
  | (none, _) :: _ => .error .notJson
  | (some key, value) :: members =>
      if !shape.fields.contains key then
        if value.whole then readDraftMembers shape readField seen members else .error .notJson
      else if seen.contains key then .error (.duplicateField key)
      else do
        let field ← readField key value
        let fields ← readDraftMembers shape readField (key :: seen) members
        .ok ((key, field) :: fields)

/-- Items of a text are read as the fields in their order. -/
def readDraftItems {α : Type} (shape : RecordShape) (readField : String → Draft → Decoded α)
    (closed : Bool) (position : Nat) : List String → List Draft → Decoded (List (String × α))
  | [], [] => if closed then .ok [] else .error .notJson
  | [], _ => .error .notJson
  | name :: names, [] =>
      if !closed then .error .notJson
      else if shape.optional.contains name then
        readDraftItems shape readField closed position names []
      else .error (.tooFewItems position shape.name shape.fields.length)
  | name :: names, item :: items => do
      let field ← readField name item
      let fields ← readDraftItems shape readField closed (position + 1) names items
      .ok ((name, field) :: fields)

/-- A record of a text is an object, or an array of its fields. The room counts how many values may
still be nested. -/
def readDraft {α : Type} (shape : RecordShape) (readField : Nat → String → Draft → Decoded α)
    (room : Nat) (draft : Draft) : Decoded (List (String × α)) :=
  match draft, room with
  | .object members closed, room + 1 => do
      let fields ← shape.readDraftMembers (readField room) [] members
      if !closed then .error .notJson
      else
        match shape.missing? fields with
        | some name => .error (.missingField name)
        | none => .ok fields
  | .array items closed, room + 1 =>
      shape.readDraftItems (readField room) closed 0 shape.fields items
  | .object _ _, 0 | .array _ _, 0 | .keyless _, _ => .error .notJson
  | other, _ => other.unexpected (.record shape.name)

end RecordShape

/-- The path that a value names. -/
def Path.ofJson (value : Json) : Decoded Path := do
  let text ← value.toText
  match Path.ofText text with
  | .ok path => .ok path
  | .error error => .error (.path error)

end Forms
