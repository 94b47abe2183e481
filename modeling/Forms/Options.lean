/-
This file holds the options of a form. Each group of options starts from its defaults, and an object
of overrides replaces the options that it names.
-/

import Forms.Catalog
import Forms.Schema.Kind

namespace Forms

/-- This function replaces the members of an object that the overrides name. It adds no members. -/
def replaceMembers (base : List (String × Json)) (overrides : List (String × Json)) :
    List (String × Json) :=
  base.map fun member => (member.1, (Json.findMember member.1 overrides).getD member.2)

/-- A group of options is written as a value and read back after its members are replaced. -/
structure OptionGroup (α : Type) where
  target : Section
  write : α → Json
  read : Json → Decoded α

namespace OptionGroup

variable {α : Type}

def readBack (group : OptionGroup α) (value : Json) : Except OverrideError α :=
  match group.read value with
  | .ok options => .ok options
  | .error error => .error ⟨group.target, .misfit error⟩

/-- Null overrides nothing. Other overrides have to be an object. -/
def merge (group : OptionGroup α) (options : α) (overrides : Json) : Except OverrideError α :=
  match overrides with
  | .null => group.readBack (group.write options)
  | .object members =>
      match group.write options with
      | .object base => group.readBack (.object (replaceMembers base members))
      | other => group.readBack other
  | _ => .error ⟨group.target, .notObject⟩

end OptionGroup

/-- The widget of each kind of field that names no widget itself. -/
structure Widgets where
  string : String
  integer : String
  decimal : String
  boolean : String
  date : String
  object : String
  array : String
deriving DecidableEq, Repr

namespace Widgets

def standard : Widgets := ⟨"text", "number", "number", "checkbox", "date", "fieldset", "list"⟩

def forKind (widgets : Widgets) : Kind → String
  | .string => widgets.string
  | .integer => widgets.integer
  | .decimal => widgets.decimal
  | .boolean => widgets.boolean
  | .date => widgets.date
  | .object => widgets.object
  | .array => widgets.array

def toJson (widgets : Widgets) : Json :=
  .object (Kind.all.map fun kind => (kind.name, .string (widgets.forKind kind)))

def shape : RecordShape := ⟨"WidgetDefaults", Kind.names, []⟩

/-- The text that was read for a kind. -/
def fieldFor (fields : List (String × String)) (kind : Kind) : String :=
  (fields.lookup kind.name).getD ""

def ofJson (value : Json) : Decoded Widgets := do
  let fields ← shape.read (fun _ value => value.toText) value
  let field := fieldFor fields
  return {
    string := field .string, integer := field .integer, decimal := field .decimal,
    boolean := field .boolean, date := field .date, object := field .object, array := field .array }

def group : OptionGroup Widgets := ⟨.widgets, toJson, ofJson⟩

end Widgets

/-- The options of rendering. The label prefix starts every label key that is made from a path. -/
structure RenderOptions where
  labelPrefix : String
  widgets : Widgets
deriving DecidableEq, Repr

namespace RenderOptions

def standard : RenderOptions := ⟨"label_", Widgets.standard⟩

def toJson (options : RenderOptions) : Json :=
  .object [("label_prefix", .string options.labelPrefix), ("widgets", options.widgets.toJson)]

def shape : RecordShape := ⟨"RenderOptions", ["label_prefix", "widgets"], []⟩

/-- One field of the record. -/
inductive Field where
  | labelPrefix (text : String)
  | widgets (widgets : Widgets)

def readField (name : String) (value : Json) : Decoded Field :=
  if name = "widgets" then Field.widgets <$> Widgets.ofJson value
  else Field.labelPrefix <$> value.toText

def ofFields (fields : List (String × Field)) : RenderOptions :=
  fields.foldl (fun options field => match field.2 with
    | .labelPrefix text => { options with labelPrefix := text }
    | .widgets widgets => { options with widgets := widgets }) standard

def ofJson (value : Json) : Decoded RenderOptions := ofFields <$> shape.read readField value

def group : OptionGroup RenderOptions := ⟨.render, toJson, ofJson⟩

end RenderOptions

/-- The options of validation. The fallback key names the message for a check that fails itself. -/
structure ValidationOptions where
  fallbackKey : String
  deduplicate : Bool
deriving DecidableEq, Repr

namespace ValidationOptions

def standard : ValidationOptions := ⟨MessageKey.checkFault.text, true⟩

def toJson (options : ValidationOptions) : Json := .object [
  ("fallback_message_key", .string options.fallbackKey),
  ("deduplicate_messages", .bool options.deduplicate)]

def shape : RecordShape :=
  ⟨"ValidationOptions", ["fallback_message_key", "deduplicate_messages"], []⟩

/-- One field of the record. -/
inductive Field where
  | fallbackKey (text : String)
  | deduplicate (value : Bool)

def readField (name : String) (value : Json) : Decoded Field :=
  if name = "fallback_message_key" then Field.fallbackKey <$> value.toText
  else Field.deduplicate <$> value.toFlag

def ofFields (fields : List (String × Field)) : ValidationOptions :=
  fields.foldl (fun options field => match field.2 with
    | .fallbackKey text => { options with fallbackKey := text }
    | .deduplicate value => { options with deduplicate := value }) standard

def ofJson (value : Json) : Decoded ValidationOptions := ofFields <$> shape.read readField value

def group : OptionGroup ValidationOptions := ⟨.validation, toJson, ofJson⟩

end ValidationOptions

/-- A plain value can be overridden too. -/
def rawGroup : OptionGroup Json := ⟨.raw, id, .ok⟩

end Forms
