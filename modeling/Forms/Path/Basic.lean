/-
This file holds the paths that name fields of a form. A path goes from the root of a value to one of
its parts, and a template path stands for every element of an array at once.
-/

import Forms.Json.Basic

namespace Forms

/-- One step of a path enters a member, an element at a position, or any element. -/
inductive Step where
  | key (name : String)
  | index (position : Nat)
  | item
deriving DecidableEq, Repr

namespace Step

/-- Members come before elements, and the placeholder for any element comes last. -/
def compare : Step → Step → Ordering
  | .key left, .key right => Ord.compare left right
  | .key _, _ => .lt
  | .index _, .key _ => .gt
  | .index left, .index right => Ord.compare left right
  | .index _, .item => .lt
  | .item, .item => .eq
  | .item, _ => .gt

instance : Ord Step := ⟨Step.compare⟩

theorem compare_def (left right : Step) : Ord.compare left right = Step.compare left right := rfl

instance : Std.OrientedOrd Step where
  eq_swap {left right} := by
    rw [compare_def, compare_def]
    cases left <;> cases right <;>
      first
        | exact Std.OrientedOrd.eq_swap
        | rfl

instance : Std.TransOrd Step where
  isLE_trans {first second third} := by
    rw [compare_def, compare_def, compare_def]
    cases first <;> cases second <;> cases third <;> simp only [Step.compare] <;>
      first
        | exact Std.TransCmp.isLE_trans
        | simp

instance : Std.LawfulEqOrd Step where
  compare_self {step} := by
    rw [compare_def]
    cases step <;> simp [Step.compare]
  eq_of_compare {left right} := by
    rw [compare_def]
    cases left <;> cases right <;> simp [Step.compare]

/-- The text of a step that does not come first. -/
def chars : Step → List Char
  | .key name => '.' :: name.toList
  | .index position => '[' :: (Nat.toDigits 10 position ++ [']'])
  | .item => ['[', '*', ']']

end Step

/-- A path lists its steps from the root. -/
structure Path where
  steps : List Step
deriving DecidableEq, Repr

namespace Path

/-- Paths are ordered step by step. A path comes before its extensions. -/
instance : Ord Path := ⟨fun left right => compare left.steps right.steps⟩

theorem compare_def (left right : Path) : compare left right = compare left.steps right.steps := rfl

instance : Std.OrientedOrd Path where
  eq_swap {left right} := by
    rw [compare_def, compare_def]
    exact Std.OrientedCmp.eq_swap

instance : Std.TransOrd Path where
  isLE_trans {first second third} := by
    rw [compare_def, compare_def, compare_def]
    exact Std.TransCmp.isLE_trans

instance : Std.LawfulEqOrd Path where
  compare_self {path} := by rw [compare_def]; exact Std.ReflCmp.compare_self
  eq_of_compare {left right} equal := by
    rw [compare_def] at equal
    cases left; cases right
    exact congrArg Path.mk (Std.LawfulEqCmp.eq_of_compare equal)

def root : Path := ⟨[]⟩

def push (path : Path) (step : Step) : Path := ⟨path.steps ++ [step]⟩

/-- The path of a member. -/
def key (path : Path) (name : String) : Path := path.push (.key name)

/-- The path of one element. -/
def index (path : Path) (position : Nat) : Path := path.push (.index position)

/-- The path that stands for every element. -/
def item (path : Path) : Path := path.push .item

def isRoot (path : Path) : Bool := path.steps.isEmpty

def length (path : Path) : Nat := path.steps.length

def last? (path : Path) : Option Step := path.steps.getLast?

/-- The root has no parent. -/
def parent? (path : Path) : Option Path :=
  if path.isRoot then none else some ⟨path.steps.dropLast⟩

/-- A template has a placeholder for any element. -/
def isTemplate (path : Path) : Bool := path.steps.any (· == .item)

/-- A placeholder of the template matches every position. -/
def stepMatches (step template : Step) : Bool :=
  match step, template with
  | .index _, .item => true
  | step, template => step == template

/-- A path is an instance of a template when the steps match one by one. -/
def isInstanceOf (path template : Path) : Bool :=
  path.steps.length == template.steps.length &&
    (path.steps.zip template.steps).all fun pair => stepMatches pair.1 pair.2

/-- The part of a value that one step leads to. A placeholder leads nowhere. -/
def lookupStep (value : Json) : Step → Option Json
  | .key name => value.member? name
  | .index position => value.item? position
  | .item => none

/-- The part of a value at the end of a list of steps. -/
def lookupSteps : List Step → Json → Option Json
  | [], value => some value
  | step :: steps, value => (lookupStep value step).bind (lookupSteps steps)

/-- The part of a value at a path. -/
def lookup (path : Path) (value : Json) : Option Json := lookupSteps path.steps value

theorem lookupSteps_append (first second : List Step) (value : Json) :
    lookupSteps (first ++ second) value = (lookupSteps first value).bind (lookupSteps second) := by
  induction first generalizing value with
  | nil => rfl
  | cons step steps inductionHypothesis =>
      simp only [List.cons_append, lookupSteps, Option.bind_assoc]
      exact congrArg (Option.bind _) (funext inductionHypothesis)

/-- A longer path leads on from where the shorter path ends. -/
theorem lookup_push (path : Path) (step : Step) (value : Json) :
    (path.push step).lookup value = (path.lookup value).bind (lookupStep · step) := by
  simp [lookup, push, lookupSteps_append, lookupSteps]

/-- Each placeholder becomes every position of the array that stands there. Members and positions
stay even where the value has none. -/
def expand : List Step → Option Json → List (List Step)
  | [], _ => [[]]
  | .key name :: steps, value =>
      (expand steps (value.bind (·.member? name))).map (.key name :: ·)
  | .index position :: steps, value =>
      (expand steps (value.bind (·.item? position))).map (.index position :: ·)
  | .item :: steps, value =>
      match value with
      | some (.array items) =>
          items.zipIdx.flatMap fun (element, position) =>
            (expand steps (some element)).map (.index position :: ·)
      | _ => []

/-- The concrete paths that a template stands for in a value. -/
def instances (path : Path) (value : Json) : List Path :=
  (expand path.steps (some value)).map Path.mk

/-- The first key has no point before it. -/
def chars (path : Path) : List Char :=
  match path.steps with
  | .key name :: steps => name.toList ++ steps.flatMap Step.chars
  | steps => steps.flatMap Step.chars

/-- The text of a path, as payloads write it. -/
def text (path : Path) : String := String.ofList path.chars

/-- The names of the keys along a path. -/
def keyNames (path : Path) : List String :=
  path.steps.filterMap fun
    | .key name => some name
    | _ => none

/-- A point or a bracket ends a key in the text of a path. -/
def isDelimiter (character : Char) : Bool :=
  character == '.' || character == '[' || character == ']'

/-- A valid key keeps its meaning in the text of a path. -/
def isValidKey (name : String) : Bool := !name.isEmpty && !name.toList.any isDelimiter

end Path

end Forms
