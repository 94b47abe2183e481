/-
This file proves that the text of a number determines the number. The texts are read as numerals, and a
numeral stands for one number only: integers have no point and no exponent, and the numerals of doubles
are the shortest ones.
-/

import Forms.Decimal.Nearest
import Forms.Json.Printer
import Forms.Proofs.Decimal.Shortest
import Forms.Proofs.Text.Runs

namespace Forms

namespace Decimal

/-- The number that a typed numeral stands for without its sign, in the units of magnitudes. -/
def Typed.units (typed : Typed) : ℚ := gridUnits typed.significand typed.scale

/-- Zeros at the end of a multiple go over into the grid. -/
theorem gridUnits_mul_pow_ten (multiple zeros : Nat) (grid : Int) :
    gridUnits (multiple * 10 ^ zeros) grid = gridUnits multiple (grid + zeros) := by
  unfold gridUnits
  generalize Nat.pow 2 1075 = units
  rw [zpow_add₀ (by norm_num), zpow_natCast]
  push_cast
  ring

theorem digitsValue_eq (digits : List Char) : digitsValue digits = Nat.ofDigitChars 10 digits 0 := by
  rw [Nat.ofDigitChars_eq_foldl, digitsValue]
  simp only [Nat.mul_comm]

theorem digitsValue_toDigits (value : Nat) : digitsValue (Nat.toDigits 10 value) = value := by
  rw [digitsValue_eq, Nat.ofDigitChars_ten_toDigits]

/-- Zeros before the digits do not count. -/
theorem digitsValue_replicate_append (zeros : Nat) (digits : List Char) :
    digitsValue (List.replicate zeros '0' ++ digits) = digitsValue digits := by
  rw [digitsValue_eq, Nat.ofDigitChars_append, Nat.ofDigitChars_replicate_zero, Nat.mul_zero,
    ← digitsValue_eq]

/-- Every zero after the digits is a factor of ten. -/
theorem digitsValue_append_replicate (digits : List Char) (zeros : Nat) :
    digitsValue (digits ++ List.replicate zeros '0') = digitsValue digits * 10 ^ zeros := by
  rw [digitsValue_eq, Nat.ofDigitChars_append, Nat.ofDigitChars_replicate_zero, ← digitsValue_eq,
    Nat.mul_comm]

/-- The sign in front of a numeral. -/
def signText (negative : Bool) : List Char := if negative then ['-'] else []

/-- The digits after the point, with the point when there are any. -/
def fractionText (fraction : List Char) : List Char :=
  if fraction.isEmpty then [] else '.' :: fraction

section Reading

variable {whole fraction rest : List Char} {exponent : Int}

theorem takeSign_append (negative : Bool) (present : whole ≠ [])
    (wholeDigits : ∀ digit ∈ whole, digit.isDigit = true) (rest : List Char) :
    takeSign (signText negative ++ (whole ++ rest)) = (negative, whole ++ rest) := by
  cases negative with
  | true => rfl
  | false =>
      obtain ⟨first, others, rfl⟩ := List.exists_cons_of_ne_nil present
      have digit : first.isDigit = true := wholeDigits first List.mem_cons_self
      simp only [signText, Bool.false_eq_true, if_false, List.nil_append, List.cons_append]
      unfold takeSign
      split
      · next same =>
          cases same
          cases digit
      · next same =>
          cases same
          cases digit
      · rfl

/-- A written numeral is read back part by part. -/
theorem ofChars?_append (negative : Bool) (present : whole ≠ [])
    (wholeDigits : ∀ digit ∈ whole, digit.isDigit = true)
    (fractionDigits : ∀ digit ∈ fraction, digit.isDigit = true)
    (ends : ∀ character ∈ rest.head?, character.isDigit = false ∧ character ≠ '.')
    (read : readExponent? rest = some exponent) :
    Typed.ofChars? (signText negative ++ (whole ++ (fractionText fraction ++ rest))) =
      some ⟨negative, whole, fraction, exponent⟩ := by
  have endsDigits : ∀ character ∈ rest.head?, character.isDigit = false :=
    fun character member => (ends character member).1
  have afterWhole : ∀ character ∈ (fractionText fraction ++ rest).head?,
      character.isDigit = false := by
    unfold fractionText
    split
    · exact endsDigits
    · rintro character same
      cases same
      rfl
  obtain ⟨takenWhole, droppedWhole⟩ := Text.takeWhile_dropWhile_append wholeDigits afterWhole
  have notEmpty : whole.isEmpty = false := by simpa using present
  simp only [Typed.ofChars?, takeSign_append negative present wholeDigits, takenWhole, droppedWhole,
    notEmpty, Bool.false_and, Bool.false_eq_true, if_false]
  cases fraction with
  | nil =>
      have noPoint : ∀ afterPoint, rest ≠ '.' :: afterPoint := by
        rintro afterPoint rfl
        exact (ends '.' rfl).2 rfl
      simp only [fractionText, List.isEmpty_nil, if_true, List.nil_append]
      rw [read]
      rfl
  | cons first others =>
      obtain ⟨takenFraction, droppedFraction⟩ := Text.takeWhile_dropWhile_append fractionDigits endsDigits
      simp only [fractionText, List.isEmpty_cons, Bool.false_eq_true, if_false, List.cons_append]
      rw [← List.cons_append, takenFraction, droppedFraction, read]
      rfl

/-- The exponent of a scientific numeral has a sign of its own. -/
theorem readExponent?_signed (exponent : Int) :
    readExponent? ('e' :: (if exponent < 0 then '-' else '+') ::
        Nat.toDigits 10 exponent.natAbs) = some exponent := by
  have digits : (Nat.toDigits 10 exponent.natAbs).all Char.isDigit = true :=
    List.all_eq_true.mpr fun _ member => Nat.isDigit_of_mem_toDigits (by decide) (by decide) member
  have present : (Nat.toDigits 10 exponent.natAbs).isEmpty = false := by simp [Nat.toDigits_ne_nil]
  by_cases below : exponent < 0
  · simp only [readExponent?, takeSign, below, if_true, digits, present, digitsValue_toDigits,
      Bool.not_false, Bool.and_true, decide_true, Bool.true_or, Option.some.injEq]
    omega
  · simp only [readExponent?, takeSign, below, if_false, digits, present, digitsValue_toDigits,
      Bool.not_false, Bool.and_true, decide_true, Bool.true_or, if_true, Bool.false_eq_true,
      Option.some.injEq]
    omega

end Reading

end Decimal

namespace NumberLayout

open Decimal

/-- A text of an unsigned number that is read as a numeral with a point or an exponent. -/
structure Writes (text : List Char) (units : ℚ) : Prop where
  read (negative : Bool) : ∃ typed, Typed.ofChars? (signText negative ++ text) = some typed ∧
    typed.negative = negative ∧ (typed.fraction ≠ [] ∨ typed.exponent ≠ 0) ∧ typed.units = units

variable {digits : Nat} {exponent : Int}

theorem isDigit_of_mem_digitsOf {value : Nat} {digit : Char} (member : digit ∈ digitsOf value) :
    digit.isDigit = true :=
  Nat.isDigit_of_mem_toDigits (by decide) (by decide) member

theorem isDigit_of_mem_replicate {zeros : Nat} {digit : Char}
    (member : digit ∈ List.replicate zeros '0') : digit.isDigit = true := by
  rw [List.eq_of_mem_replicate member]
  rfl

/-- A numeral with parts of digits stands for the number that its digits and its point give. -/
theorem Writes.of_parts {whole fraction rest : List Char} {units : ℚ} (exponent : Int)
    (present : whole ≠ [])
    (wholeDigits : ∀ digit ∈ whole, digit.isDigit = true)
    (fractionDigits : ∀ digit ∈ fraction, digit.isDigit = true)
    (ends : ∀ character ∈ rest.head?, character.isDigit = false ∧ character ≠ '.')
    (read : readExponent? rest = some exponent) (marked : fraction ≠ [] ∨ exponent ≠ 0)
    (same : gridUnits (digitsValue (whole ++ fraction)) (exponent - fraction.length) = units) :
    Writes (whole ++ (fractionText fraction ++ rest)) units :=
  ⟨fun negative => ⟨_, ofChars?_append negative present wholeDigits fractionDigits ends read, rfl,
    marked, same⟩⟩

/-- A plain numeral of a number below one. -/
theorem writes_plain_small (small : exponent < 0) :
    Writes (plain (digitsOf digits) exponent)
      (gridUnits digits (exponent - digitCount digits + 1)) := by
  obtain ⟨zeros, rfl⟩ : ∃ zeros : Nat, exponent = -(zeros + 1 : Nat) :=
    ⟨(-exponent - 1).toNat, by omega⟩
  have count : (-(-((zeros + 1 : Nat) : Int)) - 1).toNat = zeros := by omega
  have text : plain (digitsOf digits) (-(zeros + 1 : Nat)) =
      ['0'] ++ (fractionText (List.replicate zeros '0' ++ digitsOf digits) ++ []) := by
    have filled : (List.replicate zeros '0' ++ digitsOf digits).isEmpty = false := by
      simp [digitsOf, Nat.toDigits_ne_nil]
    rw [plain, if_pos small, count, fractionText, filled]
    simp
  rw [text]
  refine .of_parts 0 (by simp) (by simp) ?_ (by simp) rfl ?_ ?_
  · intro digit member
    rcases List.mem_append.mp member with zero | written
    · exact isDigit_of_mem_replicate zero
    · exact isDigit_of_mem_digitsOf written
  · simp [digitsOf, Nat.toDigits_ne_nil]
  · have value : digitsValue (['0'] ++ (List.replicate zeros '0' ++ digitsOf digits)) = digits := by
      have joined := digitsValue_replicate_append (zeros + 1) (digitsOf digits)
      rw [List.replicate_succ] at joined
      exact joined.trans (digitsValue_toDigits digits)
    rw [value]
    congr 1
    simp only [List.length_append, List.length_replicate, digitsOf, digitCount]
    push_cast
    ring

theorem length_digitsOf (value : Nat) : (digitsOf value).length = digitCount value := rfl

/-- Some digits of a plain numeral stand after the point. -/
theorem writes_take_drop {places : Nat} (longer : places + 1 < digitCount digits) :
    Writes ((digitsOf digits).take (places + 1) ++ '.' :: (digitsOf digits).drop (places + 1))
      (gridUnits digits (places - digitCount digits + 1)) := by
  have length := length_digitsOf digits
  have fraction : (digitsOf digits).drop (places + 1) ≠ [] := by simpa [length] using longer
  have text : '.' :: (digitsOf digits).drop (places + 1) =
      fractionText ((digitsOf digits).drop (places + 1)) ++ [] := by
    simp [fractionText, fraction]
  rw [text]
  refine .of_parts 0 ?_ (fun digit member => isDigit_of_mem_digitsOf
    (List.mem_of_mem_take member)) (fun digit member => isDigit_of_mem_digitsOf
    (List.mem_of_mem_drop member)) (by simp) rfl (.inl fraction) ?_
  · intro empty
    have counted := congrArg List.length empty
    rw [List.length_take, List.length_nil] at counted
    omega
  · rw [List.take_append_drop, digitsOf, digitsValue_toDigits]
    congr 1
    change (0 : Int) - ((digitsOf digits).drop (places + 1)).length = _
    rw [List.length_drop, length]
    omega

/-- Zeros fill the places of a plain numeral before the point, and one zero stands after it. -/
theorem writes_append_replicate {places : Nat} (short : digitCount digits ≤ places + 1) :
    Writes (digitsOf digits ++ List.replicate (places + 1 - digitCount digits) '0' ++ ['.', '0'])
      (gridUnits digits (places - digitCount digits + 1)) := by
  have text : ['.', '0'] = fractionText ['0'] ++ [] := rfl
  rw [text]
  refine .of_parts 0 (by simp [digitsOf, Nat.toDigits_ne_nil]) ?_ (by simp) (by simp) rfl
    (.inl (by simp)) ?_
  · intro digit member
    rcases List.mem_append.mp member with written | zero
    · exact isDigit_of_mem_digitsOf written
    · exact isDigit_of_mem_replicate zero
  · have value : digitsValue (digitsOf digits ++
        List.replicate (places + 1 - digitCount digits) '0' ++ ['0']) =
          digits * 10 ^ (places + 1 - digitCount digits + 1) := by
      have zeros : ['0'] = List.replicate 1 '0' := rfl
      rw [List.append_assoc, zeros, List.replicate_append_replicate, digitsValue_append_replicate,
        digitsOf, digitsValue_toDigits]
    rw [value, gridUnits_mul_pow_ten]
    congr 1
    rw [List.length_singleton]
    omega

/-- A plain numeral of a number from one upwards. -/
theorem writes_plain_large (large : 0 ≤ exponent) :
    Writes (plain (digitsOf digits) exponent)
      (gridUnits digits (exponent - digitCount digits + 1)) := by
  obtain ⟨places, rfl⟩ := Int.eq_ofNat_of_zero_le large
  have length := length_digitsOf digits
  by_cases longer : places + 1 < digitCount digits
  · have text : plain (digitsOf digits) places =
        (digitsOf digits).take (places + 1) ++ '.' :: (digitsOf digits).drop (places + 1) := by
      have filled : ((digitsOf digits).drop (places + 1)).isEmpty = false := by
        simpa [length] using longer
      have noZeros : places + 1 - digitCount digits = 0 := by omega
      simp [plain, length, filled, noZeros]
    exact text ▸ writes_take_drop longer
  · have short : digitCount digits ≤ places + 1 := Nat.not_lt.mp longer
    have text : plain (digitsOf digits) places =
        digitsOf digits ++ List.replicate (places + 1 - digitCount digits) '0' ++ ['.', '0'] := by
      have taken := List.take_of_length_le (length.trans_le short)
      have dropped := List.drop_eq_nil_of_le (length.trans_le short)
      simp [plain, length, taken, dropped]
    exact text ▸ writes_append_replicate short

/-- A scientific numeral of a number that is not between one and ten. -/
theorem writes_scientific (scaled : exponent ≠ 0) :
    Writes (scientific (digitsOf digits) exponent)
      (gridUnits digits (exponent - digitCount digits + 1)) := by
  have positive := digitCount_pos digits
  have length : (digitsOf digits).length = digitCount digits := rfl
  have text : scientific (digitsOf digits) exponent =
      (digitsOf digits).take 1 ++ (fractionText ((digitsOf digits).drop 1) ++
        ('e' :: (if exponent < 0 then '-' else '+') :: digitsOf exponent.natAbs)) := by
    simp [scientific, fractionText]
  rw [text]
  refine .of_parts exponent ?_ (fun digit member => isDigit_of_mem_digitsOf
    (List.mem_of_mem_take member)) (fun digit member => isDigit_of_mem_digitsOf
    (List.mem_of_mem_drop member)) ?_ (readExponent?_signed exponent) (.inr scaled) ?_
  · intro empty
    have := congrArg List.length empty
    rw [List.length_take, List.length_nil] at this
    omega
  · rintro character same
    cases same
    exact ⟨rfl, by decide⟩
  · rw [List.take_append_drop, digitsOf, digitsValue_toDigits]
    congr 1
    change exponent - ((digitsOf digits).drop 1).length = _
    rw [List.length_drop, length]
    omega

/-- The number that the numeral of a magnitude stands for. -/
def writtenUnits (rank : Nat) : ℚ := if rank = 0 then 0 else (shortest rank).units

theorem writes_magnitude (rank : Nat) : Writes (compact.magnitude rank) (writtenUnits rank) := by
  unfold magnitude writtenUnits
  split
  · have text : ['0', '.', '0'] = ['0'] ++ (fractionText ['0'] ++ []) := rfl
    rw [text]
    refine .of_parts 0 (by simp) (by simp) (by simp) (by simp) rfl (.inl (by simp)) ?_
    have value : digitsValue ['0', '0'] = 0 := by decide
    rw [List.singleton_append, value, gridUnits, Nat.cast_zero, zero_mul, zero_mul]
  · simp only [Numeral.units]
    split
    · by_cases small : (shortest rank).exponent < 0
      · exact writes_plain_small small
      · exact writes_plain_large (Int.not_lt.mp small)
    · next outside =>
        refine writes_scientific fun zero => outside ?_
        rw [zero]
        rfl

/-- Two ranks with numerals of one number are equal. -/
theorem writtenUnits_injective : Function.Injective writtenUnits := by
  have positive (rank : Nat) : 0 < (shortest (rank + 1)).units := by
    obtain ⟨multiple, grid, holds, same⟩ := exists_holds_shortest rank
    have factor : (0 : ℚ) < multiple := Nat.cast_pos.mpr (Interval.pos_of_holds holds)
    have one := gridUnits_one_pos grid
    rw [gridUnits, Nat.cast_one, one_mul] at one
    rw [same, gridUnits, mul_assoc]
    exact mul_pos factor one
  intro left right same
  cases left with
  | zero =>
      cases right with
      | zero => rfl
      | succ right =>
          rw [writtenUnits, if_pos rfl, writtenUnits, if_neg (Nat.succ_ne_zero right)] at same
          exact absurd same (ne_of_lt (positive right))
  | succ left =>
      cases right with
      | zero =>
          rw [writtenUnits, if_neg (Nat.succ_ne_zero left), writtenUnits, if_pos rfl] at same
          exact absurd same.symm (ne_of_lt (positive left))
      | succ right =>
          rw [writtenUnits, if_neg (Nat.succ_ne_zero left), writtenUnits,
            if_neg (Nat.succ_ne_zero right)] at same
          exact eq_of_units_shortest_eq (Nat.succ_pos left) (Nat.succ_pos right) same

/-- An integer is read as a numeral without a point and without an exponent. -/
theorem ofChars?_int (value : Int) :
    Typed.ofChars? (int value) = some ⟨decide (value < 0), digitsOf value.natAbs, [], 0⟩ := by
  have text : int value = signText (decide (value < 0)) ++ (digitsOf value.natAbs ++
      (fractionText [] ++ [])) := by
    simp [int, signText, fractionText]
  rw [text]
  exact ofChars?_append _ Nat.toDigits_ne_nil (fun _ member => isDigit_of_mem_digitsOf member)
    (by simp) (by simp) rfl

end NumberLayout

namespace Number

open Decimal NumberLayout

theorem exists_ofChars?_double (value : Double) :
    ∃ typed, Typed.ofChars? (Number.double value).chars = some typed ∧
      typed.negative = value.negative ∧ (typed.fraction ≠ [] ∨ typed.exponent ≠ 0) ∧
      typed.units = writtenUnits value.rank :=
  (writes_magnitude value.rank).read value.negative

/-- An integer and a double never have one text. -/
theorem chars_int_ne_double (whole : Int) (value : Double) :
    (Number.int whole).chars ≠ (Number.double value).chars := by
  intro same
  obtain ⟨typed, read, _, marked, _⟩ := exists_ofChars?_double value
  rw [← same, chars, ofChars?_int] at read
  cases read
  simp at marked

/-- The characters of the texts of numbers. -/
def isNumeralChar (character : Char) : Bool :=
  character.isDigit || character == '-' || character == '+' || character == '.' || character == 'e'

theorem isNumeralChar_of_isDigit {character : Char} (digit : character.isDigit = true) :
    isNumeralChar character = true := by
  simp [isNumeralChar, digit]

theorem isNumeralChar_of_mem_digitsOf {value : Nat} {character : Char}
    (member : character ∈ digitsOf value) : isNumeralChar character = true :=
  isNumeralChar_of_isDigit (isDigit_of_mem_digitsOf member)

theorem isNumeralChar_of_mem_plain {digits : Nat} {exponent : Int} {character : Char}
    (member : character ∈ plain (digitsOf digits) exponent) : isNumeralChar character = true := by
  unfold plain at member
  split at member
  · simp only [List.mem_append, List.mem_cons, List.not_mem_nil, or_false, List.mem_replicate] at member
    rcases member with ((rfl | rfl) | ⟨_, rfl⟩) | written
    · rfl
    · rfl
    · rfl
    · exact isNumeralChar_of_mem_digitsOf written
  · simp only [List.mem_append, List.mem_singleton, List.mem_replicate] at member
    rcases member with ((written | ⟨_, rfl⟩) | rfl) | fraction
    · exact isNumeralChar_of_mem_digitsOf (List.mem_of_mem_take written)
    · rfl
    · rfl
    · split at fraction
      · rw [List.mem_singleton.mp fraction]
        rfl
      · exact isNumeralChar_of_mem_digitsOf (List.mem_of_mem_drop fraction)

theorem isNumeralChar_of_mem_scientific {digits : Nat} {exponent : Int} {character : Char}
    (member : character ∈ scientific (digitsOf digits) exponent) :
    isNumeralChar character = true := by
  simp only [scientific, List.mem_append, List.mem_cons, List.not_mem_nil, or_false] at member
  rcases member with ((written | fraction) | (rfl | sign)) | written
  · exact isNumeralChar_of_mem_digitsOf (List.mem_of_mem_take written)
  · split at fraction
    · cases fraction
    · rcases List.mem_cons.mp fraction with rfl | written
      · rfl
      · exact isNumeralChar_of_mem_digitsOf (List.mem_of_mem_drop written)
  · rfl
  · rw [sign]
    split <;> rfl
  · exact isNumeralChar_of_mem_digitsOf written

theorem isNumeralChar_of_mem_signText {negative : Bool} {character : Char}
    (member : character ∈ signText negative) : isNumeralChar character = true := by
  cases negative with
  | true =>
      rw [List.mem_singleton.mp member]
      rfl
  | false => cases member

theorem isNumeralChar_of_mem_chars {value : Number} {character : Char}
    (member : character ∈ value.chars) : isNumeralChar character = true := by
  cases value with
  | int value =>
      rcases List.mem_append.mp member with sign | written
      · have signed : character ∈ signText (decide (value < 0)) := by simpa [signText] using sign
        exact isNumeralChar_of_mem_signText signed
      · exact isNumeralChar_of_mem_digitsOf written
  | double value =>
      rcases List.mem_append.mp member with sign | written
      · exact isNumeralChar_of_mem_signText sign
      · unfold magnitude at written
        split at written
        · simp only [List.mem_cons, List.not_mem_nil, or_false] at written
          rcases written with rfl | rfl | rfl <;> rfl
        · simp only at written
          split at written
          · exact isNumeralChar_of_mem_plain written
          · exact isNumeralChar_of_mem_scientific written

theorem chars_ne_nil (value : Number) : value.chars ≠ [] := by
  intro empty
  cases value with
  | int value =>
      have read := ofChars?_int value
      rw [chars] at empty
      rw [empty] at read
      cases read
  | double value =>
      obtain ⟨typed, read, _⟩ := exists_ofChars?_double value
      rw [empty] at read
      cases read

/-- The text of a number determines the number. -/
theorem chars_injective : Function.Injective chars := by
  intro left right same
  cases left with
  | int left =>
      cases right with
      | int right =>
          rw [chars, chars] at same
          have read := congrArg Typed.ofChars? same
          rw [ofChars?_int, ofChars?_int, Option.some.injEq, Typed.mk.injEq] at read
          obtain ⟨sign, whole, _⟩ := read
          have size : left.natAbs = right.natAbs := by
            simpa only [digitsOf, digitsValue_toDigits] using congrArg digitsValue whole
          rw [decide_eq_decide] at sign
          congr 1
          omega
      | double right => exact absurd same (chars_int_ne_double left right)
  | double left =>
      cases right with
      | int right => exact absurd same.symm (chars_int_ne_double right left)
      | double right =>
          obtain ⟨leftTyped, leftRead, leftSign, _, leftUnits⟩ := exists_ofChars?_double left
          obtain ⟨rightTyped, rightRead, rightSign, _, rightUnits⟩ := exists_ofChars?_double right
          rw [same, rightRead] at leftRead
          cases leftRead
          have ranks : left.rank = right.rank :=
            Fin.ext (writtenUnits_injective (leftUnits.symm.trans rightUnits))
          have signs : left.negative = right.negative := leftSign.symm.trans rightSign
          cases left
          cases right
          cases ranks
          cases signs
          rfl

end Number

end Forms
