/-
This file builds the standard checks. All of them but the required check find an empty field valid.
-/

import Forms.Calendar.Reader
import Forms.Check.Kind
import Forms.Check.Params
import Forms.Decimal.Nearest
import Forms.Pattern.Match

namespace Forms

namespace Json

/-- The number of characters of a text, or of items of an array. Blank texts have no length. -/
def length? : Json → Option Nat
  | .string text => if Text.isBlank text.toList then none else some text.length
  | .array items => some items.length
  | _ => none

/-- The number that a value stands for. A text can stand for a number. -/
def amount? : Json → Option Double
  | .number amount => amount.toDouble?
  | .string text => Decimal.nearest? text
  | _ => none

/-- The text of a scalar. -/
def scalarText? : Json → Option String
  | .string text => some text
  | .number amount => some amount.text
  | .bool value => some (Json.bool value).text
  | _ => none

/-- The value as one of several in a list. -/
def listed (value : Json) : String := (value.scalarText?).getD value.text

end Json

namespace StandardCheck

/-- Values without a length pass. -/
def length (message : String) (passes : Nat → Bool) : Check :=
  .demand message fun value _ => value.length?.all passes

/-- A value that stands for no number has a message of its own. -/
def number (invalid message : String) (passes : Double → Bool) : Check :=
  .present fun value _ =>
    match value.amount? with
    | none => .violation invalid
    | some amount => if passes amount then .valid else .violation message

/-- Only scalars have a text that can match. -/
def matching (message : String) (expression : Pattern.Expression) : Check :=
  .present (.demand message fun value _ => value.scalarText?.any expression.matchesIn)

def lengthMaker (key : MessageKey) (passes : (length limit : Nat) → Bool) : Maker :=
  fun params catalog => do
    let limit ← Params.natural params
    return length (catalog.formatKey key [toString limit]) (passes · limit)

def numberMaker (key : MessageKey) (passes : (amount bound : Double) → Bool) : Maker :=
  fun params catalog => do
    let bound ← Params.bound params
    return number (catalog.formatKey .numberInvalid []) (catalog.formatKey key [bound.shown])
      (passes · bound.value)

/-- The pattern as an expression. -/
def expression (source : String) : Except ParamFault Pattern.Expression :=
  match Pattern.Expression.ofText? source with
  | some expression => .ok expression
  | none => .error .notPattern

def emailPattern : String := "^[a-zA-Z0-9._%+-]+@[a-zA-Z0-9.-]+\\.[a-zA-Z]\x7b2,\x7d$"

/-- A field of the same form has to have the same value. A missing field has the value null. -/
def equals (message reference : String) : Check :=
  .present (.demand message fun value site => ((site.resolve? reference).getD .null).same value)

/-- Only texts can be dates. -/
def dated (message layout : String) : Check :=
  .present (.demand message fun value _ =>
    value.string?.any fun text =>
      (Calendar.Date.ofText? layout (Text.trim text.toList)).isSome)

def requiredMaker : Maker := fun _ catalog =>
  .ok (.demand (catalog.formatKey .valueRequired []) fun value _ => !value.isBlank)

def patternMaker : Maker := fun params catalog => do
  let source ← Params.text params "pattern"
  let expression ← expression source
  let key := (Params.messageKey? params "message").getD MessageKey.patternMismatch.text
  return matching (catalog.format key [source]) expression

def emailMaker : Maker := fun _ catalog => do
  let expression ← expression emailPattern
  return matching (catalog.formatKey .emailInvalid []) expression

def oneOfMaker : Maker := fun params catalog => do
  let allowed ← Params.list params "values"
  let message := catalog.formatKey .oneOf [", ".intercalate (allowed.map Json.listed)]
  return .present (.demand message fun value _ => allowed.any (·.same value))

/-- The other field is shown by its reference, or by a label from the catalog. -/
def equalsFieldMaker : Maker := fun params catalog => do
  let reference ← Params.text params "field"
  let label := match Params.messageKey? params "label" with
    | some key => catalog.format key []
    | none => reference
  return equals (catalog.formatKey .fieldsNotEqual [label]) reference

def dateMaker : Maker := fun params catalog => do
  let layout ← match params with
    | .null => .ok Calendar.Layout.standard
    | other => Params.text other "format"
  return dated (catalog.formatKey .dateInvalid [Calendar.Layout.describe layout]) layout

/-- The maker of each standard check. -/
def maker : StandardCheck → Maker
  | .required => requiredMaker
  | .minLength => lengthMaker .lengthTooShort fun length limit => limit ≤ length
  | .maxLength => lengthMaker .lengthTooLong fun length limit => length ≤ limit
  | .greater => numberMaker .numberGreater fun amount bound => bound.lt amount
  | .atLeast | .minimum => numberMaker .numberAtLeast fun amount bound => bound.le amount
  | .less => numberMaker .numberLess fun amount bound => amount.lt bound
  | .atMost | .maximum => numberMaker .numberAtMost fun amount bound => amount.le bound
  | .pattern => patternMaker
  | .email => emailMaker
  | .oneOf => oneOfMaker
  | .equalsField => equalsFieldMaker
  | .date => dateMaker

end StandardCheck

end Forms
