/-
This file proves that a path can be written and read again: the text of a path belongs to the grammar
exactly when its keys are valid and its positions have 64 bits.
-/

import Forms.Proofs.Path.Grammar

namespace Forms

/-- A step keeps its meaning in the text of a path: its key is valid, or its position is one that the
reader takes. -/
def Step.isWritable : Step → Bool
  | .key name => Path.isValidKey name
  | .index position => position ≤ Path.greatestPosition
  | .item => true

/-- The text of a step has no point when a key comes first. -/
def Step.written (first : Bool) (step : Step) : List Char :=
  match first, step with
  | true, .key name => name.toList
  | _, step => step.chars

namespace Path

def isWritable (path : Path) : Bool := path.steps.all Step.isWritable

/-- The text of some steps, which may stand after other steps. -/
def writtenSteps (first : Bool) : List Step → List Char
  | [] => []
  | step :: steps => step.written first ++ writtenSteps false steps

theorem writtenSteps_false (steps : List Step) : writtenSteps false steps = steps.flatMap Step.chars := by
  induction steps with
  | nil => rfl
  | cons step steps inductionHypothesis =>
      rw [writtenSteps, inductionHypothesis, List.flatMap_cons]
      rfl

theorem writtenSteps_true (path : Path) : writtenSteps true path.steps = path.chars := by
  obtain ⟨steps⟩ := path
  cases steps with
  | nil => rfl
  | cons step steps =>
      rw [writtenSteps, writtenSteps_false]
      cases step <;> rfl

theorem isNumeral_toDigits {position : Nat} (bounded : position ≤ greatestPosition) :
    IsNumeral position (Nat.toDigits 10 position) where
  present := Nat.toDigits_ne_nil
  decimal _ member := Nat.isDigit_of_mem_toDigits (by decide) (by decide) member
  value := Nat.ofDigitChars_ten_toDigits
  bounded := bounded

theorem isStepText_written (first : Bool) {step : Step} (writable : step.isWritable = true) :
    IsStepText first step (step.written first) := by
  cases step with
  | key name =>
      have key := isValidKey_iff.mp writable
      cases first with
      | true => exact .firstKey key
      | false => exact .laterKey key
  | index position =>
      have numeral := isNumeral_toDigits (of_decide_eq_true writable)
      cases first <;> exact .brackets _ (.index numeral)
  | item => cases first <;> exact .brackets _ .item

theorem isText_writtenSteps (first : Bool) {steps : List Step}
    (writable : ∀ step ∈ steps, step.isWritable = true) :
    IsText first steps (writtenSteps first steps) := by
  induction steps generalizing first with
  | nil => exact .nil first
  | cons step steps inductionHypothesis =>
      obtain ⟨writableStep, writableRest⟩ := List.forall_mem_cons.mp writable
      exact .cons (isStepText_written first writableStep) (inductionHypothesis false writableRest)

/-- The grammar gives a text only steps that can be written. -/
theorem IsStepText.isWritable {first : Bool} {step : Step} {text : List Char}
    (spelled : IsStepText first step text) : step.isWritable = true := by
  cases spelled with
  | firstKey key => exact isValidKey_iff.mpr key
  | laterKey key => exact isValidKey_iff.mpr key
  | brackets _ inside =>
      cases inside with
      | item => rfl
      | index numeral => exact decide_eq_true numeral.bounded
      | signedIndex numeral => exact decide_eq_true numeral.bounded

theorem IsText.isWritable {first : Bool} {steps : List Step} {text : List Char}
    (spelled : IsText first steps text) : ∀ step ∈ steps, step.isWritable = true := by
  induction spelled with
  | nil => exact fun _ member => nomatch member
  | cons head _ inductionHypothesis =>
      exact List.forall_mem_cons.mpr ⟨head.isWritable, inductionHypothesis⟩

/-- Every path that the reader finds can be written. -/
theorem isWritable_of_ofText {text : String} {path : Path} (read : ofText text = .ok path) :
    path.isWritable = true :=
  List.all_eq_true.mpr (ofText_eq_ok_iff.mp read).isWritable

/-- The text of a writable path names the path. -/
theorem ofText_text {path : Path} (writable : path.isWritable = true) : ofText path.text = .ok path := by
  rw [ofText_eq_ok_iff, text, String.toList_ofList, ← writtenSteps_true]
  exact isText_writtenSteps true (List.all_eq_true.mp writable)

/-- Two writable paths with one text are the same path. -/
theorem eq_of_text_eq {left right : Path} (leftWritable : left.isWritable = true)
    (rightWritable : right.isWritable = true) (same : left.text = right.text) : left = right := by
  have read := ofText_text leftWritable
  rw [same, ofText_text rightWritable] at read
  exact (Except.ok.inj read).symm

end Path

end Forms
