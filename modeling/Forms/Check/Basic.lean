/-
This file holds checks. A check looks at the value of one field and at the values around it, and it
gives a verdict.
-/

import Forms.Path.Reader
import Forms.Text.Blank

namespace Forms

/-- A check finds a value valid or not. A check that fails itself finds nothing. -/
inductive Verdict where
  | valid
  | violation (message : String)
  /-- The check gives a reason why it has no verdict. -/
  | fault (reason : String)
  /-- The check breaks off without a reason. -/
  | crash
deriving DecidableEq, Repr

namespace Verdict

def isValid : Verdict → Bool
  | .valid => true
  | _ => false

def isViolation : Verdict → Bool
  | .violation _ => true
  | _ => false

/-- The message that a field shows. A check that fails itself shows the fallback. -/
def message? (verdict : Verdict) (fallback : String) : Option String :=
  match verdict with
  | .valid => none
  | .violation message => some message
  | .fault _ | .crash => some fallback

end Verdict

/-- The text of a fault. -/
def faultText (reason : String) : String := "Validator fault: " ++ reason

/-- A site is the path of the field that is checked, with all the values of the form. -/
structure Site where
  path : Path
  values : Json

namespace Site

/-- The value of the field. A field without a value has the value null. -/
def value (site : Site) : Json := (site.path.lookup site.values).getD .null

/-- The value of another member of the same object. -/
def sibling? (site : Site) (key : String) : Option Json :=
  site.path.parent?.bind fun parent => (parent.key key).lookup site.values

def valueAt? (site : Site) (path : Path) : Option Json := path.lookup site.values

/-- A point or an opening bracket makes a reference a path from the root. -/
def isAbsolute (reference : String) : Bool :=
  reference.toList.any fun character => character == '.' || character == '['

/-- A bare key names a sibling, and any other reference is a path from the root. -/
def resolve? (site : Site) (reference : String) : Option Json :=
  if isAbsolute reference then
    match Path.ofText reference with
    | .ok path => site.valueAt? path
    | .error _ => none
  else site.sibling? reference

end Site

/-- A check is a function, so it gives one verdict for one value and one site. -/
abbrev Check := Json → Site → Verdict

namespace Json

/-- Null and blank texts count as no value. -/
def isAbsent : Json → Bool
  | .null => true
  | .string text => Text.isBlank text.toList
  | _ => false

/-- A required field must not be blank. An array without items is blank too. -/
def isBlank : Json → Bool
  | .array items => items.isEmpty
  | value => value.isAbsent

theorem isBlank_of_isAbsent {value : Json} (absent : value.isAbsent = true) :
    value.isBlank = true := by
  cases value <;> simp_all [isAbsent, isBlank]

end Json

namespace Check

/-- A check that shows one message unless the value passes. -/
def demand (message : String) (passes : Json → Site → Bool) : Check := fun value site =>
  if passes value site then .valid else .violation message

/-- A check of values that are there. Optional fields may be left empty. -/
def present (check : Check) : Check := fun value site =>
  if value.isAbsent then .valid else check value site

end Check

end Forms
