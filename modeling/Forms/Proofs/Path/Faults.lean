/-
This file proves which fault the reader of paths finds. Everything before the first place where a text
goes wrong is the text of a path, and what stands at that place decides the fault.
-/

import Forms.Proofs.Path.Grammar

namespace Forms

namespace Path

/-- What is wrong right after the text of some steps, with the details of the fault. -/
inductive Offends (before : List Char) : (rest : List Char) → (details : String) → Prop where
  /-- No step stands before the point. -/
  | leadingPoint (first : before = []) (rest : List Char) : Offends before ('.' :: rest) "leading '.'"
  /-- The point is followed by the end, by a point or by an opening bracket. -/
  | emptyKey (later : before ≠ []) {rest : List Char}
      (noKey : ∀ character ∈ rest.head?, character = '.' ∨ character = '[') :
      Offends before ('.' :: rest) "empty key"
  | unexpectedClose (rest : List Char) : Offends before (']' :: rest) "unexpected ']'"
  | closeAfterPoint (later : before ≠ []) (rest : List Char) :
      Offends before ('.' :: ']' :: rest) "unexpected ']'"
  | unterminatedBracket {rest : List Char} (unclosed : ']' ∉ rest) :
      Offends before ('[' :: rest) "unterminated '['"
  /-- The content up to the first closing bracket is neither a placeholder nor a position. -/
  | invalidIndex {content : List Char} (unclosed : ']' ∉ content)
      (invalid : ∀ step, ¬ IsContent step content) (rest : List Char) :
      Offends before ('[' :: (content ++ ']' :: rest))
        ("invalid array index '" ++ String.ofList content ++ "'")
  /-- The offset counts the bytes of the text before the key. -/
  | missingPoint (bracket : before.getLast? = some ']') {first : Char}
      (opens : first ∉ ['.', '[', ']']) (rest : List Char) :
      Offends before (first :: rest)
        ("missing '.' before key at offset " ++ toString (String.ofList before).utf8ByteSize)

/-- A text goes wrong for the first time after the text of some steps. -/
def IsFaulty (text : List Char) (details : String) : Prop :=
  ∃ before steps rest, text = before ++ rest ∧ IsText true steps before ∧ Offends before rest details

/-- The rest of a text does not go on with a key at the end of the text before it. -/
def Apart (before rest : List Char) : Prop :=
  before = [] ∨ before.getLast? = some ']' ∨ ∀ character ∈ rest.head?, isDelimiter character = true

/-- The place after a text that may be empty. -/
def Place.pass (place : Place) (taken : List Char) : Place :=
  if taken = [] then place else place.after taken

section Grammar

variable {before rest written : List Char} {first : Bool} {step : Step} {steps : List Step}
  {details : String}

theorem Offends.apart (offends : Offends before rest details) : Apart before rest := by
  cases offends with
  | missingPoint bracket opens rest => exact .inr (.inl bracket)
  | _ =>
      refine .inr (.inr ?_)
      rintro _ ⟨⟩
      rfl

/-- More text at the end does not change what is wrong, unless it can end a bracket or give a point its
key. -/
theorem Offends.append (offends : Offends before rest details) (closed : details ≠ "unterminated '['")
    (followed : details = "empty key" → rest ≠ ['.']) (more : List Char) :
    Offends before (rest ++ more) details := by
  cases offends with
  | leadingPoint first rest => exact .leadingPoint first _
  | @emptyKey later rest noKey =>
      cases rest with
      | nil => exact absurd rfl (followed rfl)
      | cons next rest => exact .emptyKey later noKey
  | unexpectedClose rest => exact .unexpectedClose _
  | closeAfterPoint later rest => exact .closeAfterPoint later _
  | unterminatedBracket unclosed => exact absurd rfl closed
  | invalidIndex unclosed invalid rest =>
      rw [List.cons_append, List.append_assoc, List.cons_append]
      exact .invalidIndex unclosed invalid _
  | missingPoint bracket opens rest => exact .missingPoint bracket opens _

theorem Apart.split (apart : Apart (written ++ before) rest) (spelled : IsText false steps before) :
    Apart written (before ++ rest) ∧ Apart before rest := by
  by_cases only : before = []
  · rw [only, List.append_nil] at apart
    exact ⟨by rwa [only], .inl only⟩
  · refine ⟨.inr (.inr ?_), ?_⟩
    · rw [List.head?_append_of_ne_nil _ only]
      exact spelled.isDelimiter_of_mem_head?
    · rcases apart with empty | bracket | ends
      · exact absurd (List.append_eq_nil_iff.mp empty).2 only
      · rw [List.getLast?_append_of_ne_nil _ only] at bracket
        exact .inr (.inl bracket)
      · exact .inr (.inr ends)

/-- One more step at the end of a text of the grammar. -/
theorem IsText.concat (spelled : IsText first steps before)
    (last : IsStepText (first && before.isEmpty) step written) :
    IsText first (steps ++ [step]) (before ++ written) := by
  induction spelled with
  | nil first =>
      have only : IsText first [step] (written ++ []) := .cons (by simpa using last) (.nil false)
      simpa using only
  | @cons first head steps text rest spelledHead spelledTail inductionHypothesis =>
      have present : (text ++ rest).isEmpty = false := by simp [spelledHead.ne_nil]
      rw [present, Bool.and_false] at last
      rw [List.append_assoc]
      exact .cons spelledHead (inductionHypothesis last)

/-- A step comes next, and what is left after it does not go on with it. -/
def StepFollows (before rest : List Char) : Prop :=
  ∃ step written following, rest = written ++ following ∧ IsStepText before.isEmpty step written ∧
    Apart (before ++ written) following

theorem stepFollows_of_bracket {content : List Char} (inside : IsContent step content)
    (following : List Char) : StepFollows before ('[' :: (content ++ ']' :: following)) := by
  refine ⟨step, '[' :: (content ++ [']']), following, by simp, .brackets _ inside, .inr (.inl ?_)⟩
  rw [← List.cons_append, ← List.append_assoc, List.getLast?_concat]

theorem offends_or_stepFollows_of_key {character : Char} (apart : Apart before (character :: rest))
    (opens : isDelimiter character = false) :
    (∃ details, Offends before (character :: rest) details) ∨
      StepFollows before (character :: rest) := by
  rcases apart with rfl | bracket | ends
  · obtain ⟨name, following, split, key, ends⟩ := exists_isKey opens rest
    exact .inr ⟨.key name, name.toList, following, split, .firstKey key, .inr (.inr ends)⟩
  · have plain : character ∉ ['.', '[', ']'] := by
      rw [← isDelimiter_iff, opens]
      exact Bool.false_ne_true
    exact .inl ⟨_, .missingPoint bracket plain rest⟩
  · rw [ends character rfl] at opens
    cases opens

theorem offends_or_stepFollows_of_point :
    (∃ details, Offends before ('.' :: rest) details) ∨ StepFollows before ('.' :: rest) := by
  by_cases first : before = []
  · exact .inl ⟨_, .leadingPoint first rest⟩
  by_cases noKey : ∀ character ∈ rest.head?, character = '.' ∨ character = '['
  · exact .inl ⟨_, .emptyKey first noKey⟩
  cases rest with
  | nil => exact absurd (fun _ member => nomatch member) noKey
  | cons next rest =>
      simp only [List.head?_cons, Option.mem_some_iff, forall_eq', not_or] at noKey
      cases opens : isDelimiter next with
      | true =>
          -- Of the characters with a meaning only the closing bracket is left.
          have close : next = ']' := by simpa [isDelimiter, noKey.1, noKey.2] using opens
          rw [close]
          exact .inl ⟨_, .closeAfterPoint first rest⟩
      | false =>
          obtain ⟨name, following, split, key, ends⟩ := exists_isKey opens rest
          have later : before.isEmpty = false := by simpa using first
          have spelled : IsStepText before.isEmpty (.key name) ('.' :: name.toList) := by
            rw [later]
            exact .laterKey key
          exact .inr ⟨_, _, following, by rw [split, List.cons_append], spelled, .inr (.inr ends)⟩

theorem offends_or_stepFollows_of_opening :
    (∃ details, Offends before ('[' :: rest) details) ∨ StepFollows before ('[' :: rest) := by
  by_cases closed : ']' ∈ rest
  · obtain ⟨content, following, rfl, unclosed⟩ := List.eq_append_cons_of_mem closed
    by_cases valid : ∃ step, IsContent step content
    · obtain ⟨step, inside⟩ := valid
      exact .inr (stepFollows_of_bracket inside following)
    · exact .inl ⟨_, .invalidIndex unclosed (not_exists.mp valid) following⟩
  · exact .inl ⟨_, .unterminatedBracket closed⟩

/-- After the text of some steps a text goes wrong, or it goes on with a step. -/
theorem offends_or_stepFollows {character : Char} (apart : Apart before (character :: rest)) :
    (∃ details, Offends before (character :: rest) details) ∨
      StepFollows before (character :: rest) := by
  cases delimiter : isDelimiter character with
  | false => exact offends_or_stepFollows_of_key apart delimiter
  | true =>
      simp only [isDelimiter_iff, List.mem_cons, List.not_mem_nil, or_false] at delimiter
      rcases delimiter with rfl | rfl | rfl
      · exact offends_or_stepFollows_of_point
      · exact offends_or_stepFollows_of_opening
      · exact .inl ⟨_, .unexpectedClose rest⟩

/-- A text belongs to the grammar, or there is a first place where it goes wrong. -/
theorem isText_or_isFaulty {before rest : List Char} {steps : List Step}
    (spelled : IsText true steps before) (apart : Apart before rest) :
    (∃ steps, IsText true steps (before ++ rest)) ∨ ∃ details, IsFaulty (before ++ rest) details := by
  cases rest with
  | nil => exact .inl ⟨steps, by rwa [List.append_nil]⟩
  | cons character rest =>
      rcases offends_or_stepFollows apart with ⟨details, offends⟩ | follows
      · exact .inr ⟨details, before, steps, _, rfl, spelled, offends⟩
      · obtain ⟨step, written, following, split, next, apart⟩ := follows
        -- A step takes at least one character, so what is left is shorter.
        have shorter : following.length < (character :: rest).length := by
          have taken := List.length_pos_iff.mpr next.ne_nil
          rw [split, List.length_append]
          omega
        rw [split, ← List.append_assoc]
        exact isText_or_isFaulty (spelled.concat next) apart
termination_by rest.length

end Grammar

section Reader

variable {before rest : List Char} {step : Step} {steps : List Step} {details : String} {place : Place}

theorem utf8Length_eq (text : List Char) : utf8Length text = (String.ofList text).utf8ByteSize := by
  induction text with
  | nil => rfl
  | cons character text inductionHypothesis =>
      rw [String.ofList_cons, String.utf8ByteSize_append, ← inductionHypothesis]
      simp [utf8Length]

theorem Place.after_append (place : Place) (first second : List Char) :
    (place.after first).after second = place.after (first ++ second) := by
  have bytes : utf8Length (first ++ second) = utf8Length first + utf8Length second := by
    simp only [utf8Length_eq, String.ofList_append, String.utf8ByteSize_append]
  rw [after, after, after, bytes, Nat.add_assoc]

theorem Place.pass_append {first : List Char} (present : first ≠ []) (place : Place)
    (second : List Char) : (place.after first).pass second = place.pass (first ++ second) := by
  have whole : first ++ second ≠ [] := List.append_ne_nil_of_left_ne_nil present second
  rw [pass, pass, if_neg whole, after_append]
  split
  · next empty => rw [empty, List.append_nil]
  · rfl

/-- A step is read when the rest does not go on with it. -/
theorem readSteps_step (placed : place.keyMayStart = !place.started)
    (spelled : IsStepText (!place.started) step before) (apart : Apart before rest) :
    readSteps place (before ++ rest) = (do
      let steps ← readSteps (place.after before) rest
      .ok (step :: steps)) := by
  rcases apart with empty | bracket | ends
  · exact absurd empty spelled.ne_nil
  · generalize (!place.started) = first at spelled
    cases spelled with
    | firstKey key => exact absurd (by decide) (key.plain _ (List.mem_of_getLast? bracket))
    | laterKey key =>
        rcases List.mem_cons.mp (List.mem_of_getLast? bracket) with same | member
        · cases same
        · exact absurd (by decide) (key.plain _ member)
    | brackets _ inside => exact readSteps_content place inside rest
  · exact readSteps_append placed spelled ends

/-- A fault after the text of some steps is the fault of the whole text. -/
theorem readSteps_eq_error {fault : PathFault} (placed : place.keyMayStart = !place.started)
    (spelled : IsText (!place.started) steps before) (apart : Apart before rest)
    (failed : readSteps (place.pass before) rest = .error fault) :
    readSteps place (before ++ rest) = .error fault := by
  generalize unstarted : (!place.started) = first at spelled
  induction spelled generalizing place with
  | nil => exact failed
  | @cons first step steps text later head tail inductionHypothesis =>
      subst unstarted
      obtain ⟨apartHead, apartTail⟩ := apart.split tail
      rw [← Place.pass_append head.ne_nil] at failed
      rw [List.append_assoc, readSteps_step placed head apartHead,
        inductionHypothesis rfl apartTail failed rfl]
      rfl

theorem readBracket_eq_error {content : List Char} (invalid : ∀ step, ¬ IsContent step content) :
    readBracket content = .error (.invalidIndex (String.ofList content)) := by
  have noPlaceholder : content ≠ ['*'] := by
    rintro rfl
    exact invalid .item .item
  have noPosition : readPosition? content = none := by
    rw [Option.eq_none_iff_forall_ne_some]
    intro position read
    exact invalid _ (readPosition?_eq_some_iff.mp read)
  rw [readBracket, if_neg noPlaceholder, noPosition]

/-- The place after the first part of a text. -/
def Place.reached (before : List Char) : Place := Place.pass ⟨true, false, 0⟩ before

theorem Place.reached_of_ne_nil (present : before ≠ []) :
    reached before = ⟨false, true, (String.ofList before).utf8ByteSize⟩ := by
  rw [reached, pass, if_neg present, after, utf8Length_eq, Nat.zero_add]

/-- What is wrong right after the text of some steps is found there. -/
theorem readSteps_offends (offends : Offends before rest details) :
    ∃ fault, readSteps (Place.reached before) rest = .error fault ∧ fault.details = details := by
  cases offends with
  | leadingPoint first rest =>
      subst first
      exact ⟨_, readSteps_leadingPoint rfl, rfl⟩
  | emptyKey later noKey =>
      rw [Place.reached_of_ne_nil later]
      exact ⟨_, readSteps_emptyKey rfl noKey, rfl⟩
  | unexpectedClose rest => exact ⟨_, readSteps_close _ rest, rfl⟩
  | closeAfterPoint later rest =>
      rw [Place.reached_of_ne_nil later, readSteps_point rfl (by decide) (by decide)]
      exact ⟨_, readSteps_close _ rest, rfl⟩
  | unterminatedBracket unclosed => exact ⟨_, readSteps_unclosed _ unclosed, rfl⟩
  | @invalidIndex content unclosed invalid rest =>
      refine ⟨.invalidIndex (String.ofList content), ?_, rfl⟩
      rw [readSteps_bracket _ _ unclosed, readBracket_eq_error invalid]
      rfl
  | @missingPoint bracket first opens rest =>
      have later : before ≠ [] := by
        rintro rfl
        cases bracket
      have plain : isDelimiter first = false := by
        rwa [← isDelimiter_iff, Bool.not_eq_true] at opens
      rw [Place.reached_of_ne_nil later]
      exact ⟨_, readSteps_missingPoint rfl plain, rfl⟩

end Reader

/-- A text that goes wrong is refused, with the details of what is wrong first. -/
theorem exists_error_of_isFaulty {text details : String} (faulty : IsFaulty text.toList details) :
    ∃ error, ofText text = .error error ∧ error.text = text ∧ error.fault.details = details := by
  obtain ⟨before, steps, rest, split, spelled, offends⟩ := faulty
  obtain ⟨fault, failed, named⟩ := readSteps_offends offends
  have whole : readSteps ⟨true, false, 0⟩ text.toList = .error fault := by
    rw [split]
    exact readSteps_eq_error rfl spelled offends.apart failed
  exact ⟨⟨text, fault⟩, by rw [ofText, whole], rfl, named⟩

theorem isFaulty_of_ofText {text : String} {error : PathError} (failed : ofText text = .error error) :
    error.text = text ∧ IsFaulty text.toList error.fault.details := by
  have start : IsText true [] [] := .nil true
  rcases isText_or_isFaulty start (.inl rfl) with ⟨steps, spelled⟩ | ⟨details, faulty⟩
  · have read : ofText text = .ok ⟨steps⟩ := ofText_eq_ok_iff.mpr spelled
    rw [read] at failed
    cases failed
  · obtain ⟨found, refused, same, named⟩ := exists_error_of_isFaulty faulty
    rw [refused] at failed
    cases failed
    exact ⟨same, named ▸ faulty⟩

/-- More text at the end keeps the fault, unless it can end a bracket or give the last point its key. -/
theorem isFaulty_append {text : String} {details : String} (faulty : IsFaulty text.toList details)
    (closed : details ≠ "unterminated '['")
    (followed : details = "empty key" → ∀ before path, ofText before = .ok path → text ≠ before ++ ".")
    (more : String) : IsFaulty (text ++ more).toList details := by
  obtain ⟨before, steps, rest, split, spelled, offends⟩ := faulty
  have keyMayFollow (empty : details = "empty key") : rest ≠ ['.'] := by
    intro point
    have read : ofText (String.ofList before) = .ok ⟨steps⟩ := by
      rw [ofText_eq_ok_iff, String.toList_ofList]
      exact spelled
    apply followed empty _ _ read
    rw [← String.toList_inj, split, point, String.toList_append, String.toList_ofList]
    rfl
  refine ⟨before, steps, rest ++ more.toList, ?_, spelled, offends.append closed keyMayFollow _⟩
  rw [String.toList_append, split, List.append_assoc]

/-- A text that the reader refuses goes wrong at a first place from the left. The error keeps the text,
and its details are those of that place: what stands before it is the text of a path. The other way round
a text that goes wrong so is refused with these details. More text at the end changes the details only
when a bracket is not ended or when the point without a key is the last character. -/
theorem ofText_firstFault :
    (∀ text error, ofText text = .error error →
      error.text = text ∧ IsFaulty text.toList error.fault.details) ∧
    (∀ text details, IsFaulty text.toList details →
      ∃ error, ofText text = .error error ∧ error.text = text ∧ error.fault.details = details) ∧
    ∀ text more error, ofText text = .error error → error.fault.details ≠ "unterminated '['" →
      (error.fault.details = "empty key" →
        ∀ before path, ofText before = .ok path → text ≠ before ++ ".") →
      ∃ later, ofText (text ++ more) = .error later ∧ later.text = text ++ more ∧
        later.fault.details = error.fault.details := by
  refine ⟨fun _ _ => isFaulty_of_ofText, fun _ _ => exists_error_of_isFaulty, ?_⟩
  intro text more error failed closed followed
  obtain ⟨_, faulty⟩ := isFaulty_of_ofText failed
  exact exists_error_of_isFaulty (isFaulty_append faulty closed followed more)

/-- A key right after brackets is the first fault of this text. Its offset counts two bytes for the first
letter, and the point and the brackets after it do not matter. -/
theorem ofText_keyAfterBracket :
    ofText "é[0]x..[" = .error ⟨"é[0]x..[", .missingPoint 5⟩ ∧
      IsFaulty "é[0]x..[".toList "missing '.' before key at offset 5" ∧
      ∃ later, ofText ("é[0]x..[" ++ "]") = .error later ∧ later.text = "é[0]x..[]" ∧
        later.fault.details = "missing '.' before key at offset 5" := by
  have failed : ofText "é[0]x..[" = .error ⟨"é[0]x..[", .missingPoint 5⟩ := by
    decide +kernel
  exact ⟨failed, (ofText_firstFault.1 _ _ failed).2,
    ofText_firstFault.2.2 _ "]" _ failed (by decide) fun empty => absurd empty (by decide)⟩

end Path

end Forms
