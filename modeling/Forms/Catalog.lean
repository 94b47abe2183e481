/-
This file holds the catalog of message templates. A template has numbered places for the arguments of
a message.
-/

import Forms.Json.Decode

namespace Forms

/-- The keys of the messages that the library itself shows. -/
inductive MessageKey where
  | valueRequired
  | lengthTooShort
  | lengthTooLong
  | numberGreater
  | numberAtLeast
  | numberLess
  | numberAtMost
  | numberInvalid
  | patternMismatch
  | emailInvalid
  | oneOf
  | fieldsNotEqual
  | dateInvalid
  | checkFault
deriving DecidableEq, Repr

namespace MessageKey

def text : MessageKey → String
  | .valueRequired => "error_value_required"
  | .lengthTooShort => "error_length_too_short"
  | .lengthTooLong => "error_length_too_long"
  | .numberGreater => "error_number_gt"
  | .numberAtLeast => "error_number_ge"
  | .numberLess => "error_number_lt"
  | .numberAtMost => "error_number_le"
  | .numberInvalid => "error_number_invalid"
  | .patternMismatch => "error_pattern_mismatch"
  | .emailInvalid => "error_email_invalid"
  | .oneOf => "error_one_of"
  | .fieldsNotEqual => "error_fields_not_equal"
  | .dateInvalid => "error_date_invalid"
  | .checkFault => "error_validator_fault"

/-- The template of a key before anyone replaces it. -/
def template : MessageKey → String
  | .valueRequired => "Value is required"
  | .lengthTooShort => "Too short; minimum length: \x7b0\x7d"
  | .lengthTooLong => "Too long; maximum length: \x7b0\x7d"
  | .numberGreater => "Must be greater than \x7b0\x7d"
  | .numberAtLeast => "Must be greater than or equal to \x7b0\x7d"
  | .numberLess => "Must be less than \x7b0\x7d"
  | .numberAtMost => "Must be less than or equal to \x7b0\x7d"
  | .numberInvalid => "Must be a number"
  | .patternMismatch => "Does not match the required format"
  | .emailInvalid => "Must be a valid email address"
  | .oneOf => "Must be one of: \x7b0\x7d"
  | .fieldsNotEqual => "Must match \x7b0\x7d"
  | .dateInvalid => "Must be a date in the format \x7b0\x7d"
  | .checkFault => "This value could not be validated"

def all : List MessageKey :=
  [.valueRequired, .lengthTooShort, .lengthTooLong, .numberGreater, .numberAtLeast, .numberLess,
    .numberAtMost, .numberInvalid, .patternMismatch, .emailInvalid, .oneOf, .fieldsNotEqual,
    .dateInvalid, .checkFault]

end MessageKey

/-- The parts of the custom options, and the values that they override. -/
inductive Section where
  | messages
  | render
  | validation
  | widgets
  | raw
deriving DecidableEq, Repr

def Section.name : Section → String
  | .messages => "messages"
  | .render => "form_schema::config::RenderOptions"
  | .validation => "form_schema::config::ValidationOptions"
  | .widgets => "form_schema::config::WidgetDefaults"
  | .raw => "serde_json::value::Value"

/-- The reasons why an override does not fit its section. -/
inductive OverrideFault where
  | notTemplates
  | templateNotText (key : String)
  | notObject
  | misfit (error : DecodeError)
deriving Repr

def OverrideFault.details : OverrideFault → String
  | .notTemplates => "expected an object of message templates"
  | .templateNotText key => "message '" ++ key ++ "' is not a string"
  | .notObject => "overrides must be a JSON object"
  | .misfit error => error.message

structure OverrideError where
  target : Section
  fault : OverrideFault
deriving Repr

def OverrideError.message (error : OverrideError) : String :=
  "Invalid override for '" ++ error.target.name ++ "': " ++ error.fault.details

/-- A catalog maps the keys of messages to their templates. -/
structure Catalog where
  templates : OrderedMap String String
deriving DecidableEq

namespace Catalog

def empty : Catalog := ⟨.empty⟩

/-- The catalog of the library's own messages. -/
def standard : Catalog := ⟨.ofList (MessageKey.all.map fun key => (key.text, key.template))⟩

def insert (catalog : Catalog) (key text : String) : Catalog := ⟨catalog.templates.insert key text⟩

def get? (catalog : Catalog) (key : String) : Option String := catalog.templates.get? key

def contains (catalog : Catalog) (key : String) : Bool := catalog.templates.contains key

@[simp] theorem get?_insert (catalog : Catalog) (key text other : String) :
    (catalog.insert key text).get? other = if other = key then some text else catalog.get? other := by
  simp [insert, get?]

/-- The members of an object of templates, up to the first one that is no text. -/
def readTemplates : List (String × Json) → Except OverrideFault (List (String × String))
  | [] => .ok []
  | (key, .string text) :: members => do
      let templates ← readTemplates members
      .ok ((key, text) :: templates)
  | (key, _) :: _ => .error (.templateNotText key)

/-- This function puts an object of templates over the catalog. Null changes nothing. -/
def withOverrides (catalog : Catalog) (overrides : Json) : Except OverrideError Catalog :=
  match overrides with
  | .null => .ok catalog
  | .object members =>
      match readTemplates members with
      | .ok templates => .ok ⟨catalog.templates.insertAll templates⟩
      | .error fault => .error ⟨.messages, fault⟩
  | _ => .error ⟨.messages, .notTemplates⟩

/-- The skip counts the characters of an occurrence that still have to be dropped. -/
def replaceFrom (pattern replacement : List Char) : (skip : Nat) → List Char → List Char
  | _, [] => []
  | skip + 1, _ :: rest => replaceFrom pattern replacement skip rest
  | 0, first :: rest =>
      if pattern.isPrefixOf (first :: rest) then
        replacement ++ replaceFrom pattern replacement (pattern.length - 1) rest
      else first :: replaceFrom pattern replacement 0 rest

/-- This function replaces the occurrences of a pattern from left to right. -/
def replaceAll (pattern replacement text : List Char) : List Char :=
  replaceFrom pattern replacement 0 text

/-- The place of an argument is its number in braces. -/
def place (position : Nat) : List Char := '{' :: (Nat.toDigits 10 position ++ ['}'])

/-- The arguments are put into their places one after the other. The text of an argument can hold
the place of a later one. -/
def fill (position : Nat) : List (List Char) → List Char → List Char
  | [], text => text
  | argument :: arguments, text =>
      fill (position + 1) arguments (replaceAll (place position) argument text)

/-- The text of a message. A key without a template stands for itself. -/
def format (catalog : Catalog) (key : String) (arguments : List String) : String :=
  match catalog.get? key with
  | none => key
  | some template =>
      String.ofList (fill 0 (arguments.map String.toList) template.toList)

/-- The text of one of the library's own messages. -/
def formatKey (catalog : Catalog) (key : MessageKey) (arguments : List String) : String :=
  catalog.format key.text arguments

/-- The arguments of a message can be any values. -/
def formatJson (catalog : Catalog) (key : String) (arguments : List Json) : String :=
  catalog.format key (arguments.map Json.shown)

end Catalog

end Forms
