/-
This file reads the parameters of checks. A parameter is given alone, or as a member of an object that
names it.
-/

import Forms.Catalog
import Forms.Check.Basic

namespace Forms

/-- The reasons why parameters do not fit a check. -/
inductive ParamFault where
  | notNatural (found : Json)
  | notNumber (found : Json)
  | notText (key : String) (found : Json)
  | notList
  | notPattern
  /-- The maker of the check gives a reason of its own. -/
  | stated (reason : String)
deriving DecidableEq, Repr

def ParamFault.details : ParamFault → String
  | .notNatural found => "expected a non-negative integer, got " ++ found.text
  | .notNumber found => "expected a number, got " ++ found.text
  | .notText key found => "expected a string for '" ++ key ++ "', got " ++ found.text
  | .notList => "expected an array of allowed values"
  | .notPattern => "invalid pattern"
  | .stated reason => reason

/-- A maker builds a check from its parameters. The messages are taken from the catalog once. -/
abbrev Maker := Json → Catalog → Except ParamFault Check

namespace Params

/-- The member with the key if the parameters are an object, and otherwise the parameters. -/
def unwrap (params : Json) (key : String) : Json :=
  match params with
  | .object members => (Json.findMember key members).getD .null
  | other => other

def natural (params : Json) : Except ParamFault Nat :=
  match unwrap params "value" with
  | .number (.int (.ofNat value)) => .ok value
  | other => .error (.notNatural other)

/-- A bound keeps the text that it was written with. -/
structure Bound where
  value : Double
  shown : String

def bound (params : Json) : Except ParamFault Bound :=
  match unwrap params "value" with
  | .number number =>
      match number.toDouble? with
      | some value => .ok ⟨value, number.text⟩
      | none => .error (.notNumber (.number number))
  | other => .error (.notNumber other)

def text (params : Json) (key : String) : Except ParamFault String :=
  match unwrap params key with
  | .string text => .ok text
  | other => .error (.notText key other)

def list (params : Json) (key : String) : Except ParamFault (List Json) :=
  match unwrap params key with
  | .array items => .ok items
  | _ => .error .notList

/-- The key of a message may stand beside the parameter. -/
def messageKey? (params : Json) (key : String) : Option String :=
  (params.member? key).bind Json.string?

end Params

end Forms
