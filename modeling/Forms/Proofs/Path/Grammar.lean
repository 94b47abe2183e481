/-
This file states the grammar of the texts of paths and proves that the reader takes exactly the texts of
the grammar. The steps that it finds are those that the grammar gives to the text.
-/

import Forms.Proofs.Path.Reading
import Forms.Proofs.Results

namespace Forms

namespace Path

/-- A key has at least one character, and none that has a meaning of its own. -/
structure IsKey (name : String) : Prop where
  present : name ≠ ""
  plain : ∀ character ∈ name.toList, character ∉ ['.', '[', ']']

/-- A position of 64 bits is written with one or more decimal digits. -/
structure IsNumeral (position : Nat) (digits : List Char) : Prop where
  present : digits ≠ []
  decimal : ∀ digit ∈ digits, digit.isDigit = true
  value : Nat.ofDigitChars 10 digits 0 = position
  bounded : position ≤ greatestPosition

/-- Brackets hold the placeholder or a position. A plus sign may stand before the digits. -/
inductive IsContent : Step → List Char → Prop where
  | item : IsContent .item ['*']
  | index {position : Nat} {digits : List Char} (numeral : IsNumeral position digits) :
      IsContent (.index position) digits
  | signedIndex {position : Nat} {digits : List Char} (numeral : IsNumeral position digits) :
      IsContent (.index position) ('+' :: digits)

/-- A step is a key or a pair of brackets. A point stands before every key but the first one. -/
inductive IsStepText : (first : Bool) → Step → List Char → Prop where
  | firstKey {name : String} (key : IsKey name) : IsStepText true (.key name) name.toList
  | laterKey {name : String} (key : IsKey name) : IsStepText false (.key name) ('.' :: name.toList)
  | brackets (first : Bool) {step : Step} {content : List Char} (inside : IsContent step content) :
      IsStepText first step ('[' :: (content ++ [']']))

/-- The text of a path is the text of its steps, one after the other. -/
inductive IsText : (first : Bool) → List Step → List Char → Prop where
  | nil (first : Bool) : IsText first [] []
  | cons {first : Bool} {step : Step} {steps : List Step} {text rest : List Char}
      (head : IsStepText first step text) (tail : IsText false steps rest) :
      IsText first (step :: steps) (text ++ rest)

section Numerals

variable {position : Nat} {digits content : List Char}

theorem decimalValue_eq (digits : List Char) : decimalValue digits = Nat.ofDigitChars 10 digits 0 := by
  rw [Nat.ofDigitChars_eq_foldl]
  simp only [decimalValue, Nat.mul_comm]

/-- The position that the digits after a sign stand for. -/
def readDigits? (digits : List Char) : Option Nat :=
  if digits.isEmpty || !digits.all Char.isDigit then none
  else if decimalValue digits ≤ greatestPosition then some (decimalValue digits)
  else none

theorem readDigits?_eq_some_iff : readDigits? digits = some position ↔ IsNumeral position digits := by
  simp only [readDigits?, Option.ite_none_left_eq_some, Option.ite_none_right_eq_some,
    decimalValue_eq, Option.some.injEq, Bool.or_eq_true, List.isEmpty_iff, Bool.not_eq_true', not_or,
    Bool.not_eq_false, List.all_eq_true]
  constructor
  · rintro ⟨⟨present, decimal⟩, bounded, rfl⟩
    exact ⟨present, decimal, rfl, bounded⟩
  · rintro ⟨present, decimal, rfl, bounded⟩
    exact ⟨⟨present, decimal⟩, bounded, rfl⟩

theorem readPosition?_signed (digits : List Char) :
    readPosition? ('+' :: digits) = readDigits? digits := rfl

theorem readPosition?_unsigned (unsigned : ∀ digits, content ≠ '+' :: digits) :
    readPosition? content = readDigits? content := by
  unfold readPosition?
  split
  · next digits => exact absurd rfl (unsigned digits)
  · rfl

/-- A character that is no digit does not occur in a numeral. -/
theorem IsNumeral.not_mem {character : Char} (numeral : IsNumeral position digits)
    (other : character.isDigit = false) : character ∉ digits := by
  intro member
  rw [numeral.decimal character member] at other
  cases other

theorem readPosition?_eq_some_iff :
    readPosition? content = some position ↔ IsContent (.index position) content := by
  constructor
  · intro read
    by_cases signed : ∃ digits, content = '+' :: digits
    · obtain ⟨digits, rfl⟩ := signed
      rw [readPosition?_signed] at read
      exact .signedIndex (readDigits?_eq_some_iff.mp read)
    · rw [readPosition?_unsigned (not_exists.mp signed)] at read
      exact .index (readDigits?_eq_some_iff.mp read)
  · intro inside
    cases inside with
    | index numeral =>
        have unsigned (digits : List Char) : content ≠ '+' :: digits := by
          rintro rfl
          exact numeral.not_mem (by decide) List.mem_cons_self
        rw [readPosition?_unsigned unsigned]
        exact readDigits?_eq_some_iff.mpr numeral
    | signedIndex numeral =>
        rw [readPosition?_signed]
        exact readDigits?_eq_some_iff.mpr numeral

/-- The reader takes between brackets what the grammar has there. -/
theorem readBracket_eq_ok_iff {step : Step} :
    readBracket content = .ok step ↔ IsContent step content := by
  constructor
  · intro read
    unfold readBracket at read
    split at read
    · next placeholder =>
        cases read
        rw [placeholder]
        exact .item
    · split at read
      · next position found =>
          cases read
          exact readPosition?_eq_some_iff.mp found
      · cases read
  · intro inside
    cases step with
    | key name => cases inside
    | item =>
        cases inside
        rfl
    | index position =>
        have noPlaceholder : content ≠ ['*'] := by
          rintro rfl
          cases inside with
          | index numeral => exact numeral.not_mem (by decide) List.mem_cons_self
        rw [readBracket, if_neg noPlaceholder, readPosition?_eq_some_iff.mpr inside]

/-- A closing bracket ends the content of brackets. -/
theorem IsContent.unclosed {step : Step} (inside : IsContent step content) : ']' ∉ content := by
  cases inside with
  | item => decide
  | index numeral => exact numeral.not_mem (by decide)
  | signedIndex numeral =>
      rw [List.mem_cons, not_or]
      exact ⟨by decide, numeral.not_mem (by decide)⟩

end Numerals

theorem isKey_iff {name : String} :
    IsKey name ↔ name.toList ≠ [] ∧ ∀ character ∈ name.toList, isDelimiter character = false := by
  have plain (character : Char) : isDelimiter character = false ↔ character ∉ ['.', '[', ']'] := by
    rw [← isDelimiter_iff, Bool.not_eq_true]
  have present : name ≠ "" ↔ name.toList ≠ [] := by simp
  simp only [plain, ← present]
  exact ⟨fun key => ⟨key.present, key.plain⟩, fun ⟨present, plain⟩ => ⟨present, plain⟩⟩

/-- The valid keys are the keys of the grammar. -/
theorem isValidKey_iff {name : String} : isValidKey name = true ↔ IsKey name := by
  rw [isKey_iff]
  simp [isValidKey]

/-- A text that opens with a character of a key starts with a whole key. -/
theorem exists_isKey {first : Char} (opens : isDelimiter first = false) (rest : List Char) :
    ∃ name following, first :: rest = name.toList ++ following ∧ IsKey name ∧
      ∀ character ∈ following.head?, isDelimiter character = true := by
  obtain ⟨run, following, split, inside, ends⟩ :=
    Text.exists_run (!isDelimiter ·) (first :: rest)
  have present : run ≠ [] := by
    rintro rfl
    have stops := ends first (by rw [← List.nil_append following, ← split]; rfl)
    simp [opens] at stops
  refine ⟨String.ofList run, following, ?_, ?_, by simpa using ends⟩
  · rw [String.toList_ofList, split]
  · rw [isKey_iff, String.toList_ofList]
    exact ⟨present, by simpa using inside⟩

section Steps

variable {place : Place} {step : Step} {steps : List Step} {text rest : List Char}

theorem IsStepText.ne_nil {first : Bool} (spelled : IsStepText first step text) : text ≠ [] := by
  cases spelled with
  | firstKey key => exact (isKey_iff.mp key).1
  | laterKey key => exact List.cons_ne_nil _ _
  | brackets first inside => exact List.cons_ne_nil _ _

/-- What comes after a step does not go on with a key. -/
theorem IsText.isDelimiter_of_mem_head? (spelled : IsText false steps text) :
    ∀ character ∈ text.head?, isDelimiter character = true := by
  intro character member
  cases spelled with
  | nil => cases member
  | cons head tail =>
      cases head with
      | laterKey key =>
          cases member
          rfl
      | brackets _ inside =>
          cases member
          rfl

/-- Brackets of the grammar are read, whatever comes after them. -/
theorem readSteps_content {content : List Char} (place : Place) (inside : IsContent step content)
    (rest : List Char) :
    readSteps place ('[' :: (content ++ [']']) ++ rest) = (do
      let steps ← readSteps (place.after ('[' :: (content ++ [']']))) rest
      .ok (step :: steps)) := by
  have bracket := readSteps_bracket place rest inside.unclosed
  rw [readBracket_eq_ok_iff.mpr inside] at bracket
  rw [List.cons_append, List.append_assoc]
  exact bracket

/-- A step of the grammar is read, and the reader goes on after it. -/
theorem readSteps_append (placed : place.keyMayStart = !place.started)
    (spelled : IsStepText (!place.started) step text)
    (ends : ∀ character ∈ rest.head?, isDelimiter character = true) :
    readSteps place (text ++ rest) = (do
      let steps ← readSteps (place.after text) rest
      .ok (step :: steps)) := by
  generalize unstarted : (!place.started) = first at spelled placed
  cases spelled with
  | firstKey key =>
      obtain ⟨present, plain⟩ := isKey_iff.mp key
      have named := readSteps_name placed present plain ends
      rwa [String.ofList_toList] at named
  | @laterKey name key =>
      obtain ⟨present, plain⟩ := isKey_iff.mp key
      have started : place.started = true := by simpa using unstarted
      -- The point is read first, and the name is read from the place after it.
      have mayStart : (Place.mk true true (place.offset + 1)).keyMayStart = true := rfl
      have named := readSteps_name mayStart present plain ends
      rw [String.ofList_toList] at named
      have moved : Place.after ⟨true, true, place.offset + 1⟩ name.toList =
          place.after ('.' :: name.toList) := by
        have point : utf8Length ('.' :: name.toList) = 1 + utf8Length name.toList := rfl
        rw [Place.after, Place.after, point, Nat.add_assoc]
      obtain ⟨first, others, same⟩ := List.exists_cons_of_ne_nil present
      have opens : isDelimiter first = false := plain first (same ▸ List.mem_cons_self)
      rw [← moved, ← named, List.cons_append, same, List.cons_append, readSteps_point started]
      · rintro rfl
        cases opens
      · rintro rfl
        cases opens
  | brackets _ inside => exact readSteps_content place inside rest

/-- A text starts with a step of the grammar, and the rest of it is read after the step. -/
def ReadsStep (place : Place) (text : List Char) (steps : List Step) : Prop :=
  ∃ step written rest later, text = written ++ rest ∧ steps = step :: later ∧
    IsStepText (!place.started) step written ∧ readSteps (place.after written) rest = .ok later

theorem readsStep_append (placed : place.keyMayStart = !place.started)
    (spelled : IsStepText (!place.started) step text)
    (ends : ∀ character ∈ rest.head?, isDelimiter character = true)
    (read : readSteps place (text ++ rest) = .ok steps) : ReadsStep place (text ++ rest) steps := by
  rw [readSteps_append placed spelled ends] at read
  obtain ⟨later, onward, same⟩ := bind_eq_ok_iff.mp read
  cases same
  exact ⟨step, text, rest, later, rfl, rfl, spelled, onward⟩

variable {first : Char}

theorem readsStep_of_key (placed : place.keyMayStart = !place.started)
    (opens : isDelimiter first = false) (read : readSteps place (first :: rest) = .ok steps) :
    ReadsStep place (first :: rest) steps := by
  cases started : place.started with
  | false =>
      obtain ⟨name, following, split, key, ends⟩ := exists_isKey opens rest
      have spelled : IsStepText (!place.started) (.key name) name.toList := by
        rw [started]
        exact .firstKey key
      rw [split] at read ⊢
      exact readsStep_append placed spelled ends read
  | true =>
      rw [readSteps_missingPoint (by rw [placed, started]; rfl) opens] at read
      cases read

theorem readsStep_of_point (placed : place.keyMayStart = !place.started)
    (read : readSteps place ('.' :: rest) = .ok steps) : ReadsStep place ('.' :: rest) steps := by
  cases started : place.started with
  | false =>
      rw [readSteps_leadingPoint started] at read
      cases read
  | true =>
      by_cases noKey : ∀ character ∈ rest.head?, character = '.' ∨ character = '['
      · rw [readSteps_emptyKey started noKey] at read
        cases read
      · cases rest with
        | nil => exact absurd (fun _ member => nomatch member) noKey
        | cons next others =>
            simp only [List.head?_cons, Option.mem_some_iff, forall_eq', not_or] at noKey
            cases opens : isDelimiter next with
            | true =>
                -- Of the characters with a meaning only the closing bracket is left.
                have close : next = ']' := by simpa [isDelimiter, noKey.1, noKey.2] using opens
                rw [readSteps_point started noKey.1 noKey.2, close, readSteps_close] at read
                cases read
            | false =>
                obtain ⟨name, following, split, key, ends⟩ := exists_isKey opens others
                have spelled : IsStepText (!place.started) (.key name) ('.' :: name.toList) := by
                  rw [started]
                  exact .laterKey key
                rw [split, ← List.cons_append] at read ⊢
                exact readsStep_append placed spelled ends read

theorem readsStep_of_bracket (read : readSteps place ('[' :: rest) = .ok steps) :
    ReadsStep place ('[' :: rest) steps := by
  by_cases closed : ']' ∈ rest
  · obtain ⟨content, following, rfl, unclosed⟩ := List.eq_append_cons_of_mem closed
    rw [readSteps_bracket place following unclosed] at read
    obtain ⟨step, inside, read⟩ := bind_eq_ok_iff.mp read
    obtain ⟨later, onward, same⟩ := bind_eq_ok_iff.mp read
    cases same
    refine ⟨step, '[' :: (content ++ [']']), following, later, ?_, rfl, ?_, onward⟩
    · rw [List.cons_append, List.append_assoc]
      rfl
    · exact .brackets _ (readBracket_eq_ok_iff.mp inside)
  · rw [readSteps_unclosed place closed] at read
    cases read

/-- What the reader takes starts with a step of the grammar. -/
theorem readsStep_of_readSteps (placed : place.keyMayStart = !place.started)
    (read : readSteps place (first :: rest) = .ok steps) : ReadsStep place (first :: rest) steps := by
  cases delimiter : isDelimiter first with
  | false => exact readsStep_of_key placed delimiter read
  | true =>
      simp only [isDelimiter_iff, List.mem_cons, List.not_mem_nil, or_false] at delimiter
      rcases delimiter with rfl | rfl | rfl
      · exact readsStep_of_point placed read
      · exact readsStep_of_bracket read
      · rw [readSteps_close] at read
        cases read

theorem isText_of_readSteps {place : Place} {steps : List Step} {text : List Char}
    (placed : place.keyMayStart = !place.started) (read : readSteps place text = .ok steps) :
    IsText (!place.started) steps text := by
  cases text with
  | nil =>
      rw [readSteps] at read
      cases read
      exact .nil _
  | cons first rest =>
      obtain ⟨step, written, following, later, split, rfl, spelled, onward⟩ :=
        readsStep_of_readSteps placed read
      -- A step takes at least one character, so the rest is shorter.
      have shorter : following.length < (first :: rest).length := by
        have taken := List.length_pos_iff.mpr spelled.ne_nil
        rw [split, List.length_append]
        omega
      rw [split]
      exact .cons spelled (isText_of_readSteps rfl onward)
termination_by text.length

theorem readSteps_of_isText (placed : place.keyMayStart = !place.started)
    (spelled : IsText (!place.started) steps text) : readSteps place text = .ok steps := by
  generalize unstarted : (!place.started) = first at spelled
  induction spelled generalizing place with
  | nil => rw [readSteps]
  | cons head tail inductionHypothesis =>
      subst unstarted
      rw [readSteps_append placed head tail.isDelimiter_of_mem_head?, inductionHypothesis rfl rfl]
      rfl

end Steps

/-- The reader takes exactly the texts of the grammar, and it finds the steps that the grammar gives
them. -/
theorem ofText_eq_ok_iff {text : String} {path : Path} :
    ofText text = .ok path ↔ IsText true path.steps text.toList := by
  obtain ⟨steps⟩ := path
  have reads : ofText text = .ok ⟨steps⟩ ↔ readSteps ⟨true, false, 0⟩ text.toList = .ok steps := by
    rw [ofText]
    cases readSteps ⟨true, false, 0⟩ text.toList <;> simp
  rw [reads]
  exact ⟨fun read => isText_of_readSteps rfl read, fun spelled => readSteps_of_isText rfl spelled⟩

end Path

end Forms
