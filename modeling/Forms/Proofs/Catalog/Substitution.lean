/-
This file proves when the text of a message is its template with all places filled at once. The places
are filled one after the other, so the text of an argument must not reach into the place of a later one.
-/

import Forms.Catalog
import Forms.Proofs.Text.Runs
import Mathlib.Data.List.Infix

namespace Forms

namespace Catalog

/-- A part of a template is a character to copy or the place of an argument. -/
inductive Piece where
  | copied (character : Char)
  | slot (position : Nat)
deriving DecidableEq, Repr

/-- The text of a part, given the text that stands in each place. -/
def Piece.text (value : Nat → List Char) : Piece → List Char
  | .copied character => [character]
  | .slot position => value position

def join (value : Nat → List Char) (pieces : List Piece) : List Char :=
  pieces.flatMap (Piece.text value)

/-- The skip counts the characters of a place that still have to be dropped. -/
def piecesFrom (count : Nat) : (skip : Nat) → List Char → List Piece
  | _, [] => []
  | skip + 1, _ :: rest => piecesFrom count skip rest
  | 0, first :: rest =>
      match (List.range count).find? fun position => (place position).isPrefixOf (first :: rest) with
      | some position => .slot position :: piecesFrom count ((place position).length - 1) rest
      | none => .copied first :: piecesFrom count 0 rest

/-- A template is read once from left to right. It has as many places as there are arguments. -/
def pieces (count : Nat) (template : List Char) : List Piece := piecesFrom count 0 template

/-- A place without an argument stays as it is. -/
def filled (arguments : List (List Char)) (position : Nat) : List Char :=
  arguments[position]?.getD (place position)

/-- All arguments are put into their places at once. No text of an argument is read again. -/
def substitute (arguments : List (List Char)) (template : List Char) : List Char :=
  join (filled arguments) (pieces arguments.length template)

/-- A text reaches into a pattern when it has the pattern in it or ends with a beginning of it. -/
def Reaches (pattern text : List Char) : Prop :=
  ∃ ending, ending ≠ [] ∧ ending <:+ text ∧ (pattern <+: ending ∨ ending <+: pattern)

instance (pattern text : List Char) : Decidable (Reaches pattern text) :=
  decidable_of_iff
    (∃ ending ∈ text.tails, ending ≠ [] ∧ (pattern <+: ending ∨ ending <+: pattern)) <| by
    simp only [List.mem_tails, Reaches, and_left_comm]

/-- No argument reaches into the place of a later one, also when it is read together with the run of
copied characters right before it. -/
def Separates (arguments : List (List Char)) : (run : List Char) → List Piece → Prop
  | _, [] => True
  | run, .copied character :: pieces => Separates arguments (run ++ [character]) pieces
  | run, .slot position :: pieces =>
      (∀ later < arguments.length, position < later →
        ¬Reaches (place later) (run ++ filled arguments position)) ∧
      Separates arguments [] pieces

instance decidableSeparates (arguments : List (List Char)) :
    (run : List Char) → (pieces : List Piece) → Decidable (Separates arguments run pieces)
  | _, [] => inferInstanceAs (Decidable True)
  | run, .copied character :: pieces => decidableSeparates arguments (run ++ [character]) pieces
  | run, .slot position :: pieces =>
      have := decidableSeparates arguments [] pieces
      inferInstanceAs (Decidable ((∀ later < arguments.length, position < later →
        ¬Reaches (place later) (run ++ filled arguments position)) ∧ Separates arguments [] pieces))

variable {pattern replacement text rest run : List Char} {arguments first : List (List Char)}

@[simp] theorem join_nil (value : Nat → List Char) : join value [] = [] := rfl

@[simp] theorem join_copied (value : Nat → List Char) (character : Char) (pieces : List Piece) :
    join value (.copied character :: pieces) = character :: join value pieces := rfl

@[simp] theorem join_slot (value : Nat → List Char) (position : Nat) (pieces : List Piece) :
    join value (.slot position :: pieces) = value position ++ join value pieces := rfl

theorem filled_nil : filled [] = place := rfl

theorem filled_of_length_le {position : Nat} (missing : first.length ≤ position) :
    filled first position = place position := by
  rw [filled, List.getElem?_eq_none missing, Option.getD_none]

/-- More arguments do not change the places that are filled. -/
theorem filled_of_start {position : Nat} (start : first <+: arguments)
    (present : position < first.length) : filled first position = filled arguments position := by
  obtain ⟨later, rfl⟩ := start
  rw [filled, filled, List.getElem?_append_left present]

theorem filled_append_self (argument : List Char) (later : List (List Char)) :
    filled (first ++ argument :: later) first.length = argument := by
  rw [filled, List.getElem?_append_right (Nat.le_refl _), Nat.sub_self]
  rfl

section Places

theorem opening_not_mem_digits (position : Nat) : '{' ∉ Nat.toDigits 10 position ++ ['}'] := by
  intro member
  rcases List.mem_append.mp member with digit | closing
  · have decimal := Nat.isDigit_of_mem_toDigits (by decide) (by decide) digit
    exact absurd decimal (by decide)
  · exact absurd closing (by decide)

/-- At most one place starts a text. -/
theorem place_unique {position other : Nat} (starts : place position <+: text)
    (otherStarts : place other <+: text) : position = other := by
  have digits {position : Nat} (starts : place position <+: text) :
      text.tail.takeWhile Char.isDigit = Nat.toDigits 10 position := by
    obtain ⟨rest, rfl⟩ := starts
    have decimal (character : Char) (member : character ∈ Nat.toDigits 10 position) :
        character.isDigit = true :=
      Nat.isDigit_of_mem_toDigits (by decide) (by decide) member
    have ends : ∀ character ∈ (['}'] ++ rest).head?, character.isDigit = false := by
      intro character head
      cases head
      decide
    have run := (Text.takeWhile_dropWhile_append decimal ends).1
    rwa [← List.append_assoc] at run
  have same := (digits starts).symm.trans (digits otherStarts)
  calc
    position = Nat.ofDigitChars 10 (Nat.toDigits 10 position) 0 :=
      Nat.ofDigitChars_ten_toDigits.symm
    _ = Nat.ofDigitChars 10 (Nat.toDigits 10 other) 0 := by rw [same]
    _ = other := Nat.ofDigitChars_ten_toDigits

/-- A place that starts before an opening brace also ends before it. -/
theorem place_prefix_run {position : Nat} (present : run ≠ [])
    (starts : place position <+: run ++ '{' :: rest) : place position <+: run := by
  cases run with
  | nil => exact absurd rfl present
  | cons character run =>
      obtain ⟨opening, digits⟩ := List.cons_prefix_cons.mp starts
      have brace : run ++ ['{'] <+: run ++ '{' :: rest := ⟨rest, by simp⟩
      have noBrace := opening_not_mem_digits position
      rcases List.prefix_or_prefix_of_prefix digits brace with before | after
      · rcases List.prefix_concat_iff.mp before with same | inside
        · exact absurd (by simp [same]) noBrace
        · exact List.cons_prefix_cons.mpr ⟨opening, inside⟩
      · exact absurd (after.subset (by simp)) noBrace

theorem not_reaches_place {position other : Nat} (apart : position ≠ other) :
    ¬Reaches (place position) (place other) := by
  rintro ⟨ending, present, ends, meets⟩
  rcases List.suffix_cons_iff.mp ends with rfl | inside
  · rcases meets with starts | starts
    · exact apart (place_unique starts (List.prefix_refl _))
    · exact apart (place_unique (List.prefix_refl _) starts)
  · -- An ending without the opening brace cannot start like a place.
    cases ending with
    | nil => exact present rfl
    | cons character ending =>
        have opening : '{' = character := by
          rcases meets with starts | starts
          · exact (List.cons_prefix_cons.mp starts).1
          · exact (List.cons_prefix_cons.mp starts).1.symm
        subst opening
        exact opening_not_mem_digits other (inside.subset (by simp))

end Places

section Reading

/-- A character is only copied where no place starts. -/
inductive IsParsed (count : Nat) : List Piece → Prop
  | nil : IsParsed count []
  | copied {character : Char} {pieces : List Piece}
      (noPlace : ∀ position < count, ¬place position <+: character :: join place pieces)
      (parsed : IsParsed count pieces) : IsParsed count (.copied character :: pieces)
  | slot (position : Nat) {pieces : List Piece} (parsed : IsParsed count pieces) :
      IsParsed count (.slot position :: pieces)

/-- The parts that are read from a template spell the template. -/
theorem piecesFrom_spec (count skip : Nat) (template : List Char) :
    join place (piecesFrom count skip template) = template.drop skip ∧
      IsParsed count (piecesFrom count skip template) := by
  induction template generalizing skip with
  | nil => exact ⟨by simp [piecesFrom], .nil⟩
  | cons first rest inductionHypothesis =>
      cases skip with
      | succ skip => exact inductionHypothesis skip
      | zero =>
          simp only [piecesFrom, List.drop_zero]
          cases found : (List.range count).find? fun position =>
              (place position).isPrefixOf (first :: rest) with
          | some position =>
              have starts : place position <+: first :: rest := by
                apply List.isPrefixOf_iff_prefix.mp
                simpa using List.find?_some found
              obtain ⟨spelled, parsed⟩ := inductionHypothesis ((place position).length - 1)
              refine ⟨?_, .slot position parsed⟩
              rw [join_slot, spelled]
              exact List.prefix_iff_eq_append.mp starts
          | none =>
              obtain ⟨spelled, parsed⟩ := inductionHypothesis 0
              rw [List.drop_zero] at spelled
              refine ⟨by rw [join_copied, spelled], .copied ?_ parsed⟩
              intro position bounded starts
              rw [spelled] at starts
              exact List.find?_eq_none.mp found position (List.mem_range.mpr bounded)
                (List.isPrefixOf_iff_prefix.mpr starts)

end Reading

section Replacing

theorem replaceFrom_skip (pattern replacement : List Char) (skip : Nat) (text : List Char) :
    replaceFrom pattern replacement skip text = replaceAll pattern replacement (text.drop skip) := by
  induction text generalizing skip with
  | nil => cases skip <;> rfl
  | cons first rest inductionHypothesis =>
      cases skip with
      | zero => rfl
      | succ skip => exact inductionHypothesis skip

theorem replaceAll_cons_of_absent {character : Char}
    (absent : ¬pattern <+: character :: text) :
    replaceAll pattern replacement (character :: text) =
      character :: replaceAll pattern replacement text := by
  rw [replaceAll, replaceFrom, if_neg fun starts => absent (List.isPrefixOf_iff_prefix.mp starts)]
  rfl

theorem replaceAll_place_append (position : Nat) (replacement rest : List Char) :
    replaceAll (place position) replacement (place position ++ rest) =
      replacement ++ replaceAll (place position) replacement rest := by
  have starts : (place position).isPrefixOf (place position ++ rest) = true :=
    List.isPrefixOf_iff_prefix.mpr (List.prefix_append _ _)
  have drops : (Nat.toDigits 10 position ++ ['}'] ++ rest).drop ((place position).length - 1) = rest :=
    List.drop_left
  rw [place, List.cons_append, ← place] at *
  rw [replaceAll, replaceFrom, if_pos starts, replaceFrom_skip, drops]

theorem not_prefix_append (apart : ¬Reaches pattern text) (present : text ≠ []) (rest : List Char) :
    ¬pattern <+: text ++ rest := by
  intro starts
  exact apart ⟨text, present, List.suffix_refl _,
    List.prefix_or_prefix_of_prefix starts (List.prefix_append _ _)⟩

theorem Reaches.mono {ending : List Char} (reaches : Reaches pattern ending) (ends : ending <:+ text) :
    Reaches pattern text := by
  obtain ⟨shared, present, inside, meets⟩ := reaches
  exact ⟨shared, present, inside.trans ends, meets⟩

/-- A text that does not reach into the pattern is kept, whatever stands after it. -/
theorem replaceAll_append (apart : ¬Reaches pattern text) :
    replaceAll pattern replacement (text ++ rest) = text ++ replaceAll pattern replacement rest := by
  induction text with
  | nil => rfl
  | cons character text inductionHypothesis =>
      have later : ¬Reaches pattern text := fun reaches => apart (reaches.mono (List.suffix_cons _ _))
      have absent : ¬pattern <+: character :: (text ++ rest) :=
        not_prefix_append apart (List.cons_ne_nil _ _) rest
      rw [List.cons_append, replaceAll_cons_of_absent absent, inductionHypothesis later,
        List.cons_append]

end Replacing

section Filling

variable {pieces : List Piece}

/-- The arguments stay separated when fewer characters are read together with the first one. -/
theorem Separates.shorten {ending : List Char} (separates : Separates arguments run pieces)
    (ends : ending <:+ run) : Separates arguments ending pieces := by
  obtain ⟨front, rfl⟩ := ends
  induction pieces generalizing ending with
  | nil => trivial
  | cons piece pieces inductionHypothesis =>
      cases piece with
      | copied character =>
          rw [Separates, List.append_assoc] at separates
          exact inductionHypothesis separates
      | slot position =>
          obtain ⟨apart, separates⟩ := separates
          refine ⟨fun later bounded after reaches => apart later bounded after ?_, separates⟩
          rw [List.append_assoc]
          exact reaches.mono (List.suffix_append _ _)

/-- Copied characters before a filled place do not start a later place with it. So a place that seems
to start at a run of them starts in the template itself. -/
theorem place_prefix_spelled (start : first <+: arguments) (more : first.length < arguments.length)
    (present : run ≠ []) (separates : Separates arguments run pieces)
    (starts : place first.length <+: run ++ join (filled first) pieces) :
    place first.length <+: run ++ join place pieces := by
  induction pieces generalizing run with
  | nil => exact starts
  | cons piece pieces inductionHypothesis =>
      cases piece with
      | copied character =>
          rw [join_copied, List.append_cons] at starts ⊢
          exact inductionHypothesis (by simp) separates starts
      | slot position =>
          rw [join_slot] at starts ⊢
          by_cases before : position < first.length
          · have apart := separates.1 first.length more before
            rw [filled_of_start start before, ← List.append_assoc] at starts
            exact absurd starts (not_prefix_append apart (by simp [present]) _)
          · rw [filled_of_length_le (by omega)] at starts
            exact (place_prefix_run present starts).trans (List.prefix_append _ _)

/-- One round of replacing fills exactly the places of one argument. -/
theorem replaceAll_join {argument : List Char} (start : first ++ [argument] <+: arguments)
    (parsed : IsParsed arguments.length pieces) (separates : Separates arguments run pieces) :
    replaceAll (place first.length) argument (join (filled first) pieces) =
      join (filled (first ++ [argument])) pieces := by
  have shorter : first <+: arguments := (List.prefix_append _ _).trans start
  have more : first.length < arguments.length := by
    have bounded := start.length_le
    rw [List.length_append, List.length_singleton] at bounded
    omega
  induction parsed generalizing run with
  | nil => rfl
  | @copied character pieces noPlace parsed inductionHypothesis =>
      have absent : ¬place first.length <+: character :: join (filled first) pieces := by
        intro starts
        have joined : Separates arguments (run ++ [character]) pieces := separates
        have alone : Separates arguments [character] pieces :=
          joined.shorten (List.suffix_append _ _)
        exact noPlace first.length more
          (place_prefix_spelled shorter more (by simp) alone starts)
      rw [join_copied, replaceAll_cons_of_absent absent, inductionHypothesis separates, join_copied]
  | @slot position pieces parsed inductionHypothesis =>
      obtain ⟨apart, separates⟩ := separates
      rw [join_slot, join_slot, ← inductionHypothesis separates]
      rcases Nat.lt_trichotomy position first.length with before | rfl | after
      · have unread : ¬Reaches (place first.length) (filled first position) := by
          intro reaches
          rw [filled_of_start shorter before] at reaches
          exact apart first.length more before (reaches.mono (List.suffix_append _ _))
        rw [filled_of_start (List.prefix_append first [argument]) before] at *
        exact replaceAll_append unread
      · rw [filled_of_length_le (Nat.le_refl _), filled_append_self]
        exact replaceAll_place_append first.length argument _
      · have unread : ¬Reaches (place first.length) (place position) := not_reaches_place (by omega)
        have beyond : (first ++ [argument]).length ≤ position := by
          rw [List.length_append, List.length_singleton]
          exact after
        rw [filled_of_length_le (Nat.le_of_lt after), filled_of_length_le beyond]
        exact replaceAll_append unread

/-- The rounds that are left fill the places that are left. -/
theorem fill_join (parsed : IsParsed arguments.length pieces)
    (separates : Separates arguments [] pieces)
    {remaining : List (List Char)} (whole : first ++ remaining = arguments) :
    fill first.length remaining (join (filled first) pieces) = join (filled arguments) pieces := by
  induction remaining generalizing first with
  | nil => rw [fill, ← whole, List.append_nil]
  | cons argument remaining inductionHypothesis =>
      have longer : (first ++ [argument]) ++ remaining = arguments := by rw [← whole]; simp
      have rest := inductionHypothesis longer
      rw [List.length_append, List.length_singleton] at rest
      rw [fill, replaceAll_join ⟨remaining, longer⟩ parsed separates, rest]

/-- Places that are filled one after the other are filled at once if the arguments are separated. -/
theorem fill_eq_substitute {template : List Char}
    (separates : Separates arguments [] (Catalog.pieces arguments.length template)) :
    fill 0 arguments template = substitute arguments template := by
  obtain ⟨spelled, parsed⟩ := piecesFrom_spec arguments.length 0 template
  have rounds := fill_join parsed separates (List.nil_append arguments)
  rw [filled_nil, spelled] at rounds
  exact rounds

end Filling

section Messages

variable {catalog : Catalog} {key template : String}

/-- The message of a key is its template with all arguments put in at once, unless an argument reaches
into the place of a later one. -/
theorem format_eq_substitute (stored : catalog.get? key = some template) {arguments : List String}
    (separates : Separates (arguments.map String.toList) []
      (pieces arguments.length template.toList)) :
    catalog.format key arguments =
      String.ofList (substitute (arguments.map String.toList) template.toList) := by
  have counted : (arguments.map String.toList).length = arguments.length := List.length_map _
  rw [← counted] at separates
  rw [format, stored]
  exact congrArg String.ofList (fill_eq_substitute separates)

/-- Numbers and words do not reach into the places of others. -/
theorem format_between :
    (empty.insert "between" "Between \x7b0\x7d and \x7b1\x7d").get? "between" =
        some "Between \x7b0\x7d and \x7b1\x7d" ∧
      Separates (["1", "ten"].map String.toList) []
        (pieces ["1", "ten"].length "Between \x7b0\x7d and \x7b1\x7d".toList) ∧
      (empty.insert "between" "Between \x7b0\x7d and \x7b1\x7d").format "between" ["1", "ten"] =
        "Between 1 and ten" := by
  have stored : (empty.insert "between" "Between \x7b0\x7d and \x7b1\x7d").get? "between" =
      some "Between \x7b0\x7d and \x7b1\x7d" := by
    rw [get?_insert, if_pos rfl]
  have separates : Separates (["1", "ten"].map String.toList) []
      (pieces ["1", "ten"].length "Between \x7b0\x7d and \x7b1\x7d".toList) := by
    decide +kernel
  have message := format_eq_substitute stored separates
  have text : String.ofList (substitute (["1", "ten"].map String.toList)
      "Between \x7b0\x7d and \x7b1\x7d".toList) = "Between 1 and ten" := by
    decide +kernel
  exact ⟨stored, separates, message.trans text⟩

/-- An argument that holds the place of a later one is read again. So is an argument that makes such a
place together with the braces around it. -/
theorem format_reads_argument :
    (empty.insert "k" "\x7b0\x7d \x7b1\x7d").format "k" ["\x7b1\x7d", "B"] = "B B" ∧
      String.ofList (substitute ["\x7b1\x7d".toList, "B".toList] "\x7b0\x7d \x7b1\x7d".toList) =
        "\x7b1\x7d B" ∧
      (empty.insert "k" "\x7b\x7b0\x7d\x7d").format "k" ["1", "B"] = "B" ∧
      String.ofList (substitute ["1".toList, "B".toList] "\x7b\x7b0\x7d\x7d".toList) =
        "\x7b1\x7d" := by
  decide +kernel

end Messages

end Catalog

end Forms
