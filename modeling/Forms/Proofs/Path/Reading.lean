/-
This file proves how the reader of paths goes on from a place in a text. There is one equation for
every way in which the text can start, and later proofs use the equations only.
-/

import Forms.Path.Reader
import Forms.Proofs.Text.Runs

namespace Forms

namespace Path

theorem isDelimiter_iff {character : Char} :
    isDelimiter character = true ↔ character ∈ ['.', '[', ']'] := by
  simp [isDelimiter, or_assoc]

section Brackets

variable (place : Place)

/-- A bracket ends at the first closing bracket after it. -/
theorem readSteps_bracket {content : List Char} (following : List Char) (unclosed : ']' ∉ content) :
    readSteps place ('[' :: (content ++ ']' :: following)) = (do
      let step ← readBracket content
      let steps ← readSteps (place.after ('[' :: (content ++ [']']))) following
      .ok (step :: steps)) := by
  have inside : ∀ character ∈ content, (character != ']') = true := fun character member =>
    bne_iff_ne.mpr fun same => unclosed (same ▸ member)
  have ends : ∀ character ∈ (']' :: following).head?, (character != ']') = false := by simp
  obtain ⟨taken, dropped⟩ := Text.takeWhile_dropWhile_append inside ends
  rw [readSteps]
  split
  · next empty =>
      rw [dropped] at empty
      cases empty
  · next onward =>
      rw [dropped] at onward
      cases onward
      rw [taken]

/-- A bracket without a closing bracket after it has no end. -/
theorem readSteps_unclosed {rest : List Char} (unclosed : ']' ∉ rest) :
    readSteps place ('[' :: rest) = .error .unterminatedBracket := by
  have inside : ∀ character ∈ rest, (character != ']') = true := fun character member =>
    bne_iff_ne.mpr fun same => unclosed (same ▸ member)
  have ends : ∀ character ∈ ([] : List Char).head?, (character != ']') = false := by simp
  have dropped := (Text.takeWhile_dropWhile_append inside ends).2
  rw [List.append_nil] at dropped
  rw [readSteps]
  split
  · rfl
  · next onward =>
      rw [dropped] at onward
      cases onward

theorem readSteps_close (rest : List Char) :
    readSteps place (']' :: rest) = .error .unexpectedClose := by
  rw [readSteps]

end Brackets

section Keys

variable {place : Place} {first : Char} {rest : List Char}

theorem readSteps_leadingPoint (unstarted : place.started = false) :
    readSteps place ('.' :: rest) = .error .leadingPoint := by
  rw [readSteps.eq_def]
  simp only [unstarted, Bool.not_false, if_true]

/-- A point, a bracket or nothing after a point leaves out the key. -/
theorem readSteps_emptyKey (started : place.started = true)
    (noKey : ∀ character ∈ rest.head?, character = '.' ∨ character = '[') :
    readSteps place ('.' :: rest) = .error .emptyKey := by
  rw [readSteps.eq_def]
  simp only [started, Bool.not_true, Bool.false_eq_true, if_false]
  cases rest with
  | nil => rfl
  | cons next following =>
      rcases noKey next rfl with rfl | rfl
      · rfl
      · rfl

/-- A point leads on to what comes after it. -/
theorem readSteps_point (started : place.started = true) (noPoint : first ≠ '.')
    (noBracket : first ≠ '[') :
    readSteps place ('.' :: first :: rest) =
      readSteps ⟨true, true, place.offset + 1⟩ (first :: rest) := by
  rw [readSteps, started]
  · rfl
  · exact noPoint
  · exact noBracket

/-- A character without a meaning of its own opens a key. -/
theorem readSteps_opens (opens : isDelimiter first = false) :
    readSteps place (first :: rest) =
      if !place.keyMayStart then .error (.missingPoint place.offset)
      else (do
        let name := first :: rest.takeWhile (!isDelimiter ·)
        let steps ← readSteps (place.after name) (rest.dropWhile (!isDelimiter ·))
        .ok (.key (String.ofList name) :: steps)) := by
  rw [readSteps.eq_def]
  split
  · next same => cases same
  · next same => cases same; simp [isDelimiter] at opens
  · next same => cases same; simp [isDelimiter] at opens
  · next same => cases same; simp [isDelimiter] at opens
  · next same => cases same; rfl

theorem readSteps_missingPoint (finished : place.keyMayStart = false)
    (opens : isDelimiter first = false) :
    readSteps place (first :: rest) = .error (.missingPoint place.offset) := by
  simp only [readSteps_opens opens, finished, Bool.not_false, if_true]

/-- A key ends before the next character that has a meaning of its own. -/
theorem readSteps_name (mayStart : place.keyMayStart = true) {name : List Char} (present : name ≠ [])
    (plain : ∀ character ∈ name, isDelimiter character = false)
    (ends : ∀ character ∈ rest.head?, isDelimiter character = true) :
    readSteps place (name ++ rest) = (do
      let steps ← readSteps (place.after name) rest
      .ok (.key (String.ofList name) :: steps)) := by
  obtain ⟨first, others, rfl⟩ := List.exists_cons_of_ne_nil present
  obtain ⟨opens, plainOthers⟩ := List.forall_mem_cons.mp plain
  have inside : ∀ character ∈ others, (!isDelimiter character) = true := by simpa using plainOthers
  have stops : ∀ character ∈ rest.head?, (!isDelimiter character) = false := by simpa using ends
  obtain ⟨taken, dropped⟩ := Text.takeWhile_dropWhile_append inside stops
  simp only [List.cons_append, readSteps_opens opens, mayStart, taken, dropped, Bool.not_true,
    Bool.false_eq_true, if_false]

end Keys

end Path

end Forms
