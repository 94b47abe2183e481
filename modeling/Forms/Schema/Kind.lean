/-
This file holds the data types of fields.
-/

import Forms.Json.Basic

namespace Forms

/-- A field holds a scalar of some type, an object with named members, or an array. -/
inductive Kind where
  | string
  | integer
  | decimal
  | boolean
  | date
  | object
  | array
deriving DecidableEq, Repr

namespace Kind

def name : Kind → String
  | .string => "string"
  | .integer => "integer"
  | .decimal => "decimal"
  | .boolean => "boolean"
  | .date => "date"
  | .object => "object"
  | .array => "array"

def all : List Kind := [.string, .integer, .decimal, .boolean, .date, .object, .array]

def names : List String := all.map name

def ofName? (name : String) : Option Kind := all.find? fun kind => kind.name == name

theorem ofName?_name (kind : Kind) : ofName? kind.name = some kind := by
  cases kind <;> decide

def isScalar : Kind → Bool
  | .object | .array => false
  | _ => true

/-- The value of a field that nobody has touched. -/
def emptyValue : Kind → Json
  | .string => .string ""
  | .integer | .decimal | .date => .null
  | .boolean => .bool false
  | .object => .object []
  | .array => .array []

end Kind

end Forms
