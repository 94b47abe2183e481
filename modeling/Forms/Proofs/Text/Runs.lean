/-
This file proves facts about runs of characters that every reader of texts needs: where a run ends, and
how the digits of a number are found again when zeros stand before them.
-/

namespace Forms

namespace Text

variable {run rest digits : List Char} {digit : Char}

/-- Characters of one kind are taken up to the first other character. -/
theorem takeWhile_dropWhile_append {kind : Char → Bool}
    (inside : ∀ character ∈ run, kind character = true)
    (ends : ∀ character ∈ rest.head?, kind character = false) :
    (run ++ rest).takeWhile kind = run ∧ (run ++ rest).dropWhile kind = rest := by
  rw [List.takeWhile_append_of_pos inside, List.dropWhile_append_of_pos inside]
  cases rest with
  | nil => simp
  | cons next rest => simp [ends next rfl]

/-- Every text is a run of characters of one kind and a rest that does not go on with them. -/
theorem exists_run (kind : Char → Bool) (text : List Char) :
    ∃ run rest, text = run ++ rest ∧ (∀ character ∈ run, kind character = true) ∧
      ∀ character ∈ rest.head?, kind character = false := by
  refine ⟨text.takeWhile kind, text.dropWhile kind, List.takeWhile_append_dropWhile.symm, ?_, ?_⟩
  · exact List.all_eq_true.mp List.all_takeWhile
  · intro character head
    have stops := List.head?_dropWhile_not kind text
    rw [Option.mem_def.mp head] at stops
    simpa using stops

theorem digitValue_lt_ten (decimal : digit.isDigit = true) : digit.toNat - '0'.toNat < 10 := by
  obtain ⟨_, greatest⟩ := Char.isDigit_iff_toNat.mp decimal
  have nine : '9'.toNat = '0'.toNat + 9 := rfl
  omega

theorem toDigits_digitValue (decimal : digit.isDigit = true) :
    Nat.toDigits 10 (digit.toNat - '0'.toNat) = [digit] := by
  have small := digitValue_lt_ten decimal
  have same : (digit.toNat - '0'.toNat).digitChar = digit := by
    apply Char.toNat_inj.mp
    obtain ⟨least, _⟩ := Char.isDigit_iff_toNat.mp decimal
    have zero : '0'.toNat = 48 := rfl
    rw [Nat.toNat_digitChar_of_lt_ten small]
    omega
  rw [Nat.toDigits_of_lt_base small, same]

/-- Digits after a positive number stay as they are. -/
theorem toDigits_ofDigitChars {total : Nat} (positive : 0 < total)
    (decimal : ∀ digit ∈ digits, digit.isDigit = true) :
    Nat.toDigits 10 (Nat.ofDigitChars 10 digits total) = Nat.toDigits 10 total ++ digits := by
  induction digits generalizing total with
  | nil => simp
  | cons digit digits inductionHypothesis =>
      obtain ⟨first, later⟩ := List.forall_mem_cons.mp decimal
      have joined := Nat.toDigits_append_toDigits (b := 10) (by decide) positive
        (digitValue_lt_ten first)
      rw [Nat.ofDigitChars_cons, inductionHypothesis (by omega) later, ← joined,
        toDigits_digitValue first, List.append_assoc]
      rfl

end Text

end Forms
