/-
This file proves which paths feedback can address. A position is a number of 64 bits, and a path with
such positions can be written exactly when its keys are valid, as they are when a schema declares them.
-/

import Forms.Proofs.Path.General
import Forms.Proofs.Path.Text

namespace Forms

/-- The position of an element is a number of 64 bits. -/
def Step.isAddressable : Step → Bool
  | .index position => position ≤ Path.greatestPosition
  | _ => true

def Path.isAddressable (path : Path) : Bool := path.steps.all Step.isAddressable

namespace Json

mutual

/-- Every element of every array in the value has a position of 64 bits. -/
def isAddressable : Json → Bool
  | .array items => items.length ≤ Path.greatestPosition + 1 && itemsAddressable items
  | .object members => membersAddressable members
  | _ => true
termination_by structural value => value

def itemsAddressable : List Json → Bool
  | [] => true
  | item :: items => item.isAddressable && itemsAddressable items
termination_by structural items => items

def membersAddressable : List (String × Json) → Bool
  | [] => true
  | member :: members => memberAddressable member && membersAddressable members
termination_by structural members => members

def memberAddressable : String × Json → Bool
  | (_, value) => value.isAddressable
termination_by structural member => member

end

theorem isAddressable_of_getElem? {items : List Json} {position : Nat} {item : Json}
    (addressable : itemsAddressable items = true) (found : items[position]? = some item) :
    item.isAddressable = true := by
  induction items generalizing position with
  | nil => cases found
  | cons first items inductionHypothesis =>
      obtain ⟨addressableFirst, addressableRest⟩ := Bool.and_eq_true_iff.mp addressable
      cases position with
      | zero =>
          cases found
          exact addressableFirst
      | succ position => exact inductionHypothesis addressableRest found

theorem isAddressable_of_findMember {members : List (String × Json)} {key : String} {value : Json}
    (addressable : membersAddressable members = true) (found : findMember key members = some value) :
    value.isAddressable = true := by
  induction members with
  | nil => cases found
  | cons member members inductionHypothesis =>
      obtain ⟨name, first⟩ := member
      obtain ⟨addressableFirst, addressableRest⟩ := Bool.and_eq_true_iff.mp addressable
      unfold findMember at found
      split at found
      · cases found
        exact addressableFirst
      · exact inductionHypothesis addressableRest found

end Json

namespace Path

variable {path template : Path} {value part : Json}

theorem isAddressable_of_lookupStep {step : Step} (addressable : value.isAddressable = true)
    (found : lookupStep value step = some part) : part.isAddressable = true := by
  cases step with
  | key name =>
      cases value with
      | object members => exact Json.isAddressable_of_findMember addressable found
      | _ => cases found
  | index position =>
      cases value with
      | array items =>
          obtain ⟨_, addressableItems⟩ := Bool.and_eq_true_iff.mp addressable
          exact Json.isAddressable_of_getElem? addressableItems found
      | _ => cases found
  | item => cases found

/-- The parts of an addressable value are addressable. -/
theorem isAddressable_of_lookup (addressable : value.isAddressable = true)
    (found : path.lookup value = some part) : part.isAddressable = true := by
  obtain ⟨steps⟩ := path
  rw [lookup] at found
  induction steps generalizing value with
  | nil =>
      cases found
      exact addressable
  | cons step steps inductionHypothesis =>
      obtain ⟨next, entered, onward⟩ := Option.bind_eq_some_iff.mp found
      exact inductionHypothesis (isAddressable_of_lookupStep addressable entered) onward

/-- The paths that a declared template stands for in an addressable value are addressable. -/
theorem isAddressable_of_mem_instances (declared : ∀ step ∈ template.steps, step.IsDeclared)
    (addressable : value.isAddressable = true) (listed : path ∈ template.instances value) :
    path.isAddressable = true := by
  obtain ⟨_, matched, reached⟩ := mem_instances.mp listed
  refine List.all_eq_true.mpr fun step member => ?_
  cases step with
  | index position =>
      obtain ⟨place, here⟩ := List.mem_iff_getElem?.mp member
      -- The template is the path with its positions left open.
      have same := (isInstanceOf_iff_generalize (isGeneral_of_isDeclared declared)).mp matched
      have placeholder : template.steps[place]? = some .item := by
        rw [same, generalize, List.getElem?_map, here]
        rfl
      obtain ⟨other, items, found, array, below⟩ := reached place placeholder
      rw [here] at found
      obtain rfl : position = other := Step.index.inj (Option.some.inj found)
      obtain ⟨bounded, _⟩ := Bool.and_eq_true_iff.mp (isAddressable_of_lookup addressable array)
      have short : items.length ≤ greatestPosition + 1 := of_decide_eq_true bounded
      exact decide_eq_true (by omega)
  | key name => rfl
  | item => rfl

/-- An addressable instance of a declared template can be written. -/
theorem isWritable_of_isInstanceOf (declared : ∀ step ∈ template.steps, step.IsDeclared)
    (matched : path.isInstanceOf template = true) (addressable : path.isAddressable = true) :
    path.isWritable = true := by
  refine List.all_eq_true.mpr fun step member => ?_
  cases step with
  | key name =>
      have same := (isInstanceOf_iff_generalize (isGeneral_of_isDeclared declared)).mp matched
      have keyed : .key name ∈ template.steps := by
        rw [same]
        exact List.mem_map.mpr ⟨.key name, member, rfl⟩
      exact declared _ keyed
  | index position => exact List.all_eq_true.mp addressable _ member
  | item => rfl

/-- A path with positions of 64 bits can be written when its keys are valid. -/
theorem isWritable_iff :
    path.isWritable = true ↔
      path.isAddressable = true ∧ ∀ name ∈ path.keyNames, isValidKey name = true := by
  have eachStep (step : Step) : step.isWritable = true ↔
      step.isAddressable = true ∧ ∀ name, step = .key name → isValidKey name = true := by
    cases step with
    | key name => simp [Step.isWritable, Step.isAddressable]
    | index position => simp [Step.isWritable, Step.isAddressable]
    | item => simp [Step.isWritable, Step.isAddressable]
  have keys : (∀ name ∈ path.keyNames, isValidKey name = true) ↔
      ∀ step ∈ path.steps, ∀ name, step = .key name → isValidKey name = true := by
    simp only [keyNames, List.mem_filterMap]
    constructor
    · rintro valid _ member name rfl
      exact valid name ⟨_, member, rfl⟩
    · rintro valid name ⟨step, member, same⟩
      cases step with
      | key other =>
          cases same
          exact valid _ member _ rfl
      | index position => cases same
      | item => cases same
  rw [isWritable, isAddressable, keys, List.all_eq_true, List.all_eq_true, ← forall₂_and]
  exact forall₂_congr fun step _ => eachStep step

/-- A path is read back from its text exactly when its keys are valid. So the reader finds only paths
with valid keys, and no two paths with valid keys have one text. -/
theorem ofText_text_exact :
    (∀ path : Path, path.isAddressable = true →
      (ofText path.text = .ok path ↔ ∀ name ∈ path.keyNames, isValidKey name = true)) ∧
      (∀ text path, ofText text = .ok path → ∀ name ∈ path.keyNames, isValidKey name = true) ∧
      ∀ left right : Path, left.isAddressable = true → right.isAddressable = true →
        (∀ name ∈ left.keyNames, isValidKey name = true) →
          (∀ name ∈ right.keyNames, isValidKey name = true) → left.text = right.text →
            left = right := by
  have validKeys {text : String} {path : Path} (read : ofText text = .ok path) :
      ∀ name ∈ path.keyNames, isValidKey name = true :=
    (isWritable_iff.mp (isWritable_of_ofText read)).2
  refine ⟨fun path addressable => ⟨validKeys, fun valid => ?_⟩, fun _ _ => validKeys, ?_⟩
  · exact ofText_text (isWritable_iff.mpr ⟨addressable, valid⟩)
  · intro left right leftAddressable rightAddressable leftValid rightValid
    exact eq_of_text_eq (isWritable_iff.mpr ⟨leftAddressable, leftValid⟩)
      (isWritable_iff.mpr ⟨rightAddressable, rightValid⟩)

/-- The last position of 64 bits is read back, and a key with a point in it is not. -/
theorem ofText_text_lastPosition :
    isAddressable ⟨[.item, .index greatestPosition, .key "a b"]⟩ = true ∧
      ofText (text ⟨[.item, .index greatestPosition, .key "a b"]⟩) =
        .ok ⟨[.item, .index greatestPosition, .key "a b"]⟩ ∧
      isAddressable ⟨[.key "a.b"]⟩ = true ∧
      ofText (text ⟨[.key "a.b"]⟩) ≠ .ok ⟨[.key "a.b"]⟩ := by
  have last : isAddressable ⟨[.item, .index greatestPosition, .key "a b"]⟩ = true := by decide
  have pointed : isAddressable ⟨[.key "a.b"]⟩ = true := by decide
  refine ⟨last, (ofText_text_exact.1 _ last).mpr (by decide), pointed, fun read => ?_⟩
  exact absurd ((ofText_text_exact.1 _ pointed).mp read) (by decide)

end Path

end Forms
