/-
This file proves that the spellings of a path differ only in the plus signs and the zeros before
positions. A text that names a path becomes the text of the path when its positions are written plainly.
-/

import Forms.Proofs.Path.Text

namespace Forms

namespace Path

/-- Zeros before another digit are left out. -/
def dropZeros : List Char → List Char
  | '0' :: next :: rest => if next.isDigit then dropZeros (next :: rest) else '0' :: next :: rest
  | text => text

/-- A plus sign at the front is left out. -/
def dropPlus : List Char → List Char
  | '+' :: rest => rest
  | text => text

/-- After every opening bracket, the plus sign and the zeros before a position are left out. -/
def plainChars : List Char → List Char
  | [] => []
  | '[' :: rest => '[' :: dropZeros (dropPlus (plainChars rest))
  | character :: rest => character :: plainChars rest

/-- The text with every position written plainly. -/
def plainText (text : String) : String := String.ofList (plainChars text.toList)

section Positions

variable {digits rest : List Char}

theorem dropZeros_of_ne_zero {first : Char} (other : first ≠ '0') (rest : List Char) :
    dropZeros (first :: rest) = first :: rest := by
  unfold dropZeros
  split
  · next same =>
      cases same
      exact absurd rfl other
  · rfl

/-- The last digit stays, also when it is a zero. -/
theorem dropZeros_last (ends : ∀ character ∈ rest.head?, character.isDigit = false) :
    dropZeros ('0' :: rest) = '0' :: rest := by
  cases rest with
  | nil => rfl
  | cons next rest => simp [dropZeros, ends next rfl]

/-- Without the zeros before it, a numeral has the digits of its number. -/
theorem dropZeros_append (present : digits ≠ []) (decimal : ∀ digit ∈ digits, digit.isDigit = true)
    (ends : ∀ character ∈ rest.head?, character.isDigit = false) :
    dropZeros (digits ++ rest) = Nat.toDigits 10 (Nat.ofDigitChars 10 digits 0) ++ rest := by
  -- A zero at the front changes neither side. After any other digit all digits stay.
  induction digits with
  | nil => exact absurd rfl present
  | cons first digits inductionHypothesis =>
      obtain ⟨decimalFirst, later⟩ := List.forall_mem_cons.mp decimal
      rw [Nat.ofDigitChars_cons, Nat.mul_zero, Nat.zero_add]
      by_cases zero : first = '0'
      · subst zero
        cases digits with
        | nil => exact dropZeros_last ends
        | cons next digits =>
            have nextDigit : next.isDigit = true := later next List.mem_cons_self
            have dropped : dropZeros ('0' :: next :: (digits ++ rest)) =
                dropZeros (next :: (digits ++ rest)) := by
              simp [dropZeros, nextDigit]
            rw [List.cons_append, List.cons_append, dropped, ← List.cons_append,
              inductionHypothesis (List.cons_ne_nil _ _) later]
            rfl
      · have positive : 0 < first.toNat - '0'.toNat := by
          apply Nat.pos_of_ne_zero
          intro noValue
          have written := Text.toDigits_digitValue decimalFirst
          rw [noValue] at written
          exact zero (List.cons.inj written).1.symm
        rw [List.cons_append, dropZeros_of_ne_zero zero,
          Text.toDigits_ofDigitChars positive later, Text.toDigits_digitValue decimalFirst]
        rfl

end Positions

section Spelling

variable {first : Bool} {step : Step} {steps : List Step} {text rest : List Char}

/-- Nothing is left out of a text without opening brackets. -/
theorem plainChars_append {run : List Char} (unopened : '[' ∉ run) (rest : List Char) :
    plainChars (run ++ rest) = run ++ plainChars rest := by
  induction run with
  | nil => rfl
  | cons character run inductionHypothesis =>
      rw [List.mem_cons, not_or] at unopened
      rw [List.cons_append, plainChars, inductionHypothesis unopened.2]
      · rfl
      · exact fun same => unopened.1 same.symm

/-- Only a plus sign is left out at the front. -/
theorem dropPlus_numeral {position : Nat} {digits : List Char} (numeral : IsNumeral position digits)
    (rest : List Char) : dropPlus (digits ++ rest) = digits ++ rest := by
  obtain ⟨first, others, rfl⟩ := List.exists_cons_of_ne_nil numeral.present
  rw [List.cons_append, dropPlus]
  intro _ same
  cases same
  exact numeral.not_mem (by decide) List.mem_cons_self

/-- A position between brackets is written plainly, with or without a plus sign. -/
theorem plainChars_content (inside : IsContent step text) (rest : List Char) :
    plainChars ('[' :: (text ++ ']' :: rest)) = step.chars ++ plainChars rest := by
  have plain {position : Nat} {digits : List Char} (numeral : IsNumeral position digits) :
      '[' :: dropZeros (digits ++ ']' :: plainChars rest) =
        (Step.index position).chars ++ plainChars rest := by
    rw [dropZeros_append numeral.present numeral.decimal, numeral.value, Step.chars,
      List.cons_append, List.append_assoc]
    · rfl
    · rintro character ⟨⟩
      rfl
  have kept {position : Nat} {digits : List Char} (numeral : IsNumeral position digits) :
      plainChars (digits ++ ']' :: rest) = digits ++ ']' :: plainChars rest :=
    plainChars_append (numeral.not_mem (by decide)) (']' :: rest)
  cases inside with
  | item => rfl
  | index numeral => rw [plainChars, kept numeral, dropPlus_numeral numeral, plain numeral]
  | @signedIndex position digits numeral =>
      have signed : plainChars ('+' :: (digits ++ ']' :: rest)) =
          '+' :: (digits ++ ']' :: plainChars rest) := by
        rw [← kept numeral]
        rfl
      rw [plainChars, List.cons_append, signed, dropPlus, plain numeral]

/-- A step of the grammar becomes the text of the step. -/
theorem plainChars_step (spelled : IsStepText first step text) (rest : List Char) :
    plainChars (text ++ rest) = step.written first ++ plainChars rest := by
  have unopened {name : String} (key : IsKey name) : '[' ∉ name.toList := fun member =>
    key.plain '[' member (by decide)
  cases spelled with
  | firstKey key => exact plainChars_append (unopened key) rest
  | @laterKey name key =>
      have noBracket : '[' ∉ '.' :: name.toList := by
        rw [List.mem_cons, not_or]
        exact ⟨by decide, unopened key⟩
      exact plainChars_append noBracket rest
  | @brackets _ _ content inside =>
      have written : step.written first = step.chars := by
        cases inside <;> cases first <;> rfl
      rw [List.cons_append, List.append_assoc, written]
      exact plainChars_content inside rest

/-- A text of the grammar becomes the text of its steps. -/
theorem plainChars_of_isText (spelled : IsText first steps text) :
    plainChars text = writtenSteps first steps := by
  induction spelled with
  | nil => rfl
  | cons head _ inductionHypothesis =>
      rw [plainChars_step head, inductionHypothesis]
      rfl

end Spelling

/-- A text that names a path is the text of the path when its positions are written plainly. -/
theorem text_of_ofText {text : String} {path : Path} (read : ofText text = .ok path) :
    path.text = plainText text := by
  rw [Path.text, ← writtenSteps_true, plainText, plainChars_of_isText (ofText_eq_ok_iff.mp read)]

/-- The last digit of a position stays. -/
example : plainText "a[+007].b[*][00]" = "a[7].b[*][0]" := by decide +kernel

/-- The reader takes exactly the texts of the grammar, and the steps of the text are the steps of the
path. Plus signs and zeros before positions are all that a text can add to its path: without them it is
the text of the path, and two texts name one path exactly when they agree without them. -/
theorem ofText_exact :
    (∀ text path, ofText text = .ok path ↔ IsText true path.steps text.toList) ∧
      (∀ text path, ofText text = .ok path → path.text = plainText text) ∧
      ∀ left right leftPath rightPath, ofText left = .ok leftPath → ofText right = .ok rightPath →
        (leftPath = rightPath ↔ plainText left = plainText right) := by
  refine ⟨fun _ _ => ofText_eq_ok_iff, fun _ _ => text_of_ofText, ?_⟩
  intro left right leftPath rightPath readLeft readRight
  rw [← text_of_ofText readLeft, ← text_of_ofText readRight]
  constructor
  · intro same
    rw [same]
  · exact eq_of_text_eq (isWritable_of_ofText readLeft) (isWritable_of_ofText readRight)

/-- A position may be written with a plus sign and with zeros before it. -/
theorem ofText_paddedPosition :
    ofText "phones[+007].number" = .ok ⟨[.key "phones", .index 7, .key "number"]⟩ ∧
      ofText "phones[7].number" = .ok ⟨[.key "phones", .index 7, .key "number"]⟩ ∧
      plainText "phones[+007].number" = plainText "phones[7].number" := by
  have padded : ofText "phones[+007].number" =
      .ok ⟨[.key "phones", .index 7, .key "number"]⟩ :=
    toOption_eq_some_iff.mp (by decide +kernel)
  have plain : ofText "phones[7].number" = .ok ⟨[.key "phones", .index 7, .key "number"]⟩ :=
    toOption_eq_some_iff.mp (by decide +kernel)
  exact ⟨padded, plain, (ofText_exact.2.2 _ _ _ _ padded plain).mp rfl⟩

end Path

end Forms
