/-
This file holds the values that forms exchange with their host. A value keeps the order of its
members, and a number keeps whether it was written as an integer or as a fraction.
-/

import Forms.Double
import Forms.OrderedMap

namespace Forms

/-- A number is an integer or a double. The two kinds never equal each other. -/
inductive Number where
  | int (value : Int)
  | double (value : Double)
deriving DecidableEq, Repr

/-- The double nearest to the number. -/
def Number.toDouble? : Number → Option Double
  | .int value => Double.ofInt? value
  | .double value => some value

/-- The sign of a zero does not tell two numbers apart. -/
def Number.canonical : Number → Number
  | .int value => .int value
  | .double value => .double (if value.isZero then .zero false else value)

/-- The members of an object stand in the order in which they were read. -/
inductive Json where
  | null
  | bool (value : Bool)
  | number (value : Number)
  | string (text : String)
  | array (items : List Json)
  | object (members : List (String × Json))
deriving Repr, Inhabited

namespace Json

mutual

/-- Equality of values is decidable, member by member. -/
def decideEqual : (left right : Json) → Decidable (left = right)
  | .null, .null => isTrue rfl
  | .bool left, .bool right =>
      if equal : left = right then isTrue (by rw [equal]) else isFalse (by simp [equal])
  | .number left, .number right =>
      if equal : left = right then isTrue (by rw [equal]) else isFalse (by simp [equal])
  | .string left, .string right =>
      if equal : left = right then isTrue (by rw [equal]) else isFalse (by simp [equal])
  | .array left, .array right =>
      match decideEqualItems left right with
      | isTrue equal => isTrue (by rw [equal])
      | isFalse differ => isFalse (by simp [differ])
  | .object left, .object right =>
      match decideEqualMembers left right with
      | isTrue equal => isTrue (by rw [equal])
      | isFalse differ => isFalse (by simp [differ])
  | .null, .bool _ | .null, .number _ | .null, .string _ | .null, .array _ | .null, .object _
  | .bool _, .null | .bool _, .number _ | .bool _, .string _ | .bool _, .array _
  | .bool _, .object _ | .number _, .null | .number _, .bool _ | .number _, .string _
  | .number _, .array _ | .number _, .object _ | .string _, .null | .string _, .bool _
  | .string _, .number _ | .string _, .array _ | .string _, .object _ | .array _, .null
  | .array _, .bool _ | .array _, .number _ | .array _, .string _ | .array _, .object _
  | .object _, .null | .object _, .bool _ | .object _, .number _ | .object _, .string _
  | .object _, .array _ => isFalse (by simp)
termination_by structural left => left

def decideEqualItems : (left right : List Json) → Decidable (left = right)
  | [], [] => isTrue rfl
  | [], _ :: _ | _ :: _, [] => isFalse (by simp)
  | left :: lefts, right :: rights =>
      match left.decideEqual right, decideEqualItems lefts rights with
      | isTrue head, isTrue tail => isTrue (by rw [head, tail])
      | isFalse head, _ => isFalse (by simp [head])
      | _, isFalse tail => isFalse (by simp [tail])
termination_by structural left => left

def decideEqualMembers : (left right : List (String × Json)) → Decidable (left = right)
  | [], [] => isTrue rfl
  | [], _ :: _ | _ :: _, [] => isFalse (by simp)
  | left :: lefts, right :: rights =>
      match decideEqualMember left right, decideEqualMembers lefts rights with
      | isTrue head, isTrue tail => isTrue (by rw [head, tail])
      | isFalse head, _ => isFalse (by simp [head])
      | _, isFalse tail => isFalse (by simp [tail])
termination_by structural left => left

def decideEqualMember : (left right : String × Json) → Decidable (left = right)
  | (leftKey, left), (rightKey, right) =>
      match left.decideEqual right with
      | isTrue values =>
          if keys : leftKey = rightKey then isTrue (by rw [values, keys])
          else isFalse (by simp [keys])
      | isFalse values => isFalse (by simp [values])
termination_by structural left => left

end

instance : DecidableEq Json := decideEqual

mutual

/-- The canonical form sorts the members of every object by key and drops the sign of zero. -/
def canonical : Json → Json
  | .number value => .number value.canonical
  | .array items => .array (canonicalItems items)
  | .object members => .object (OrderedMap.ofList (canonicalMembers members)).entries
  | value => value
termination_by structural value => value

def canonicalItems : List Json → List Json
  | [] => []
  | item :: items => item.canonical :: canonicalItems items
termination_by structural items => items

def canonicalMembers : List (String × Json) → List (String × Json)
  | [] => []
  | member :: members => canonicalMember member :: canonicalMembers members
termination_by structural members => members

def canonicalMember : String × Json → String × Json
  | (key, value) => (key, value.canonical)
termination_by structural member => member

end

/-- Two values are the same when their canonical forms are equal. The order of members does not
matter, and an integer is never the same as a double. -/
def same (left right : Json) : Bool := decide (left.canonical = right.canonical)

/-- The first member with the key answers for the key. -/
def findMember (key : String) : List (String × Json) → Option Json
  | [] => none
  | (name, value) :: members => if name = key then some value else findMember key members

/-- Only an object has members. -/
def member? (value : Json) (key : String) : Option Json :=
  match value with
  | .object members => findMember key members
  | _ => none

/-- Only an array has items. -/
def item? (value : Json) (position : Nat) : Option Json :=
  match value with
  | .array items => items[position]?
  | _ => none

def string? : Json → Option String
  | .string text => some text
  | _ => none

/-- An existing member keeps its position when its value changes. A new member comes last. -/
def putMember (key : String) (value : Json) : List (String × Json) → List (String × Json)
  | [] => [(key, value)]
  | (name, old) :: members =>
      if name = key then (name, value) :: members else (name, old) :: putMember key value members

@[simp] theorem findMember_putMember (key other : String) (value : Json)
    (members : List (String × Json)) :
    findMember other (putMember key value members) =
      if key = other then some value else findMember other members := by
  induction members with
  | nil => simp [putMember, findMember]
  | cons member members inductionHypothesis =>
      obtain ⟨name, old⟩ := member
      by_cases same : name = key
      · subst same
        simp only [putMember, if_true, findMember]
        split <;> rfl
      · simp only [putMember, same, if_false, findMember, inductionHypothesis]
        by_cases first : name = other
        · subst first
          simp [Ne.symm same]
        · simp [first]

/-- A repeated key keeps its first position and takes its last value. -/
def collectMembers (members : List (String × Json)) : List (String × Json) :=
  members.foldl (fun collected member => putMember member.1 member.2 collected) []

/-- This function gives an object a member. Other values have no place for it. -/
def withMember (value : Json) (key : String) (member : Json) : Json :=
  match value with
  | .object members => .object (putMember key member members)
  | other => other

@[simp] theorem same_self (value : Json) : value.same value = true := by simp [same]

theorem same_comm (left right : Json) : left.same right = right.same left := by
  simp [same, eq_comm]

end Json

end Forms
