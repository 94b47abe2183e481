/-
This file holds the types of checks. The standard types have fixed names, and any other name belongs
to a type that the host of the form supplies.
-/

import Forms.Json.Printer
import Forms.Schema.Basic

namespace Forms

/-- The standard types of checks. -/
inductive StandardCheck where
  | required
  | minLength
  | maxLength
  | greater
  | atLeast
  | less
  | atMost
  | minimum
  | maximum
  | pattern
  | email
  | oneOf
  | equalsField
  | date
deriving DecidableEq, Repr

namespace StandardCheck

def name : StandardCheck → String
  | .required => "required"
  | .minLength => "minLength"
  | .maxLength => "maxLength"
  | .greater => "gt"
  | .atLeast => "ge"
  | .less => "lt"
  | .atMost => "le"
  | .minimum => "min"
  | .maximum => "max"
  | .pattern => "pattern"
  | .email => "email"
  | .oneOf => "oneOf"
  | .equalsField => "equalsField"
  | .date => "date"

def all : List StandardCheck :=
  [.required, .minLength, .maxLength, .greater, .atLeast, .less, .atMost, .minimum, .maximum,
    .pattern, .email, .oneOf, .equalsField, .date]

def ofName? (name : String) : Option StandardCheck := all.find? fun check => check.name == name

theorem ofName?_name (check : StandardCheck) : ofName? check.name = some check := by
  cases check <;> decide

end StandardCheck

/-- The type of a check is standard or supplied by the host. -/
inductive CheckKind where
  | standard (check : StandardCheck)
  | custom (name : String)
deriving DecidableEq, Repr

namespace CheckKind

def ofName (name : String) : CheckKind :=
  match StandardCheck.ofName? name with
  | some check => .standard check
  | none => .custom name

def name : CheckKind → String
  | .standard check => check.name
  | .custom name => name

def isStandard : CheckKind → Bool
  | .standard _ => true
  | .custom _ => false

end CheckKind

/-- The type of check that a declaration names. -/
def Declaration.kind (declaration : Declaration) : CheckKind := .ofName declaration.id

/-- A field is required if it declares the check that no blank value passes. -/
def Declaration.isRequired (declaration : Declaration) : Bool :=
  declaration.id == StandardCheck.required.name

/-- Declarations with the same key build the same check. The key has the text of the parameters. -/
def Declaration.buildKey (declaration : Declaration) : String × String :=
  (declaration.id, declaration.params.text)

end Forms
