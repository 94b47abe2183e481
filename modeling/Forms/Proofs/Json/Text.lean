/-
This file proves that the text of a value determines the value. No text of a value is the start of
another one, except that a number may go on with further characters of numbers.
-/

import Forms.Json.Draft
import Forms.Proofs.Json.Numerals

namespace Forms

namespace Draft

/-- The digits of a control character are read as its code. -/
theorem hexUnit?_hexDigit : ∀ code < 32,
    hexUnit? '0' '0' (Json.hexDigit (code / 16)) (Json.hexDigit code) = some code := by
  decide

/-- An escaped character is read as one unit. -/
theorem scanString_escaped (character : Char) (rest : List Char) :
    scanString (Json.escaped character ++ rest) =
      (scanString rest).map fun scanned => (character.toNat :: scanned.1, scanned.2) := by
  have chained : ((scanString rest).bind fun scanned => some (character.toNat :: scanned.1, scanned.2)) =
      (scanString rest).map fun scanned => (character.toNat :: scanned.1, scanned.2) := by
    cases scanString rest <;> rfl
  unfold Json.escaped
  split
  all_goals try exact chained
  next plainQuote plainSlash _ _ _ _ _ =>
    split
    · next control =>
        simp only [List.cons_append, List.nil_append, scanString, hexUnit?_hexDigit _ control]
        exact chained
    · next other =>
        rw [List.singleton_append, scanString]
        · have kept : (decide (character.toNat < 32) || decide (character = '\\')) = false := by
            simp only [Bool.or_eq_false_iff, decide_eq_false_iff_not]
            exact ⟨other, plainSlash⟩
          rw [kept]
          exact chained
        · exact plainQuote
        · intro _ _ _ _ _ same
          exact absurd same plainSlash
        · intro _ _ same
          exact absurd same plainSlash

/-- A quoted text is read up to its closing quote. -/
theorem scanString_flatMap_escaped (text : List Char) (rest : List Char) :
    scanString (text.flatMap Json.escaped ++ '"' :: rest) = some (text.map Char.toNat, rest) := by
  induction text with
  | nil => rfl
  | cons character text inductionHypothesis =>
      rw [List.flatMap_cons, List.append_assoc, scanString_escaped, inductionHypothesis]
      rfl

end Draft

namespace Json

/-- Two quoted texts that start one text are the same text. -/
theorem quoted_append_inj {left right : String} {leftRest rightRest : List Char}
    (same : quoted left ++ leftRest = quoted right ++ rightRest) :
    left = right ∧ leftRest = rightRest := by
  have inner : left.toList.flatMap escaped ++ '"' :: leftRest =
      right.toList.flatMap escaped ++ '"' :: rightRest := by
    simpa [quoted] using same
  have read := congrArg Draft.scanString inner
  rw [Draft.scanString_flatMap_escaped, Draft.scanString_flatMap_escaped, Option.some.injEq,
    Prod.mk.injEq] at read
  have codes : Function.Injective Char.toNat := fun _ _ equal => Char.toNat_inj.mp equal
  exact ⟨String.toList_inj.mp (codes.list_map read.1), read.2⟩

/-- What comes after a value is no further character of a number. -/
def Stops (rest : List Char) : Prop := ∀ character ∈ rest.head?, Number.isNumeralChar character = false

/-- A property of all values follows part by part. -/
theorem partInduction {motive : Json → Prop} (null : motive .null) (bool : ∀ value, motive (.bool value))
    (number : ∀ value, motive (.number value)) (string : ∀ text, motive (.string text))
    (array : ∀ items, (∀ item ∈ items, motive item) → motive (.array items))
    (object : ∀ members, (∀ member ∈ members, motive member.2) → motive (.object members)) :
    ∀ value, motive value
  | .null => null
  | .bool value => bool value
  | .number value => number value
  | .string text => string text
  | .array items => array items fun item _ => partInduction null bool number string array object item
  | .object members => object members fun entry _ =>
      partInduction null bool number string array object entry.2
termination_by value => value
decreasing_by
  · next member =>
      have smaller := List.sizeOf_lt_of_mem member
      simp only [Json.array.sizeOf_spec]
      omega
  · next member =>
      have smaller := List.sizeOf_lt_of_mem member
      cases entry
      simp only [Prod.mk.sizeOf_spec, Json.object.sizeOf_spec] at smaller ⊢
      omega

/-- A writer delimits a part when every text that starts with the part determines the part and the rest,
as long as no character of a number comes next. -/
def Delimits {α : Type} (write : α → List Char) (part : α) : Prop :=
  ∀ (other : α) (rest otherRest : List Char), Stops rest → Stops otherRest →
    write part ++ rest = write other ++ otherRest → part = other ∧ rest = otherRest

section Separation

variable {α : Type} {write : α → List Char} {close : Char} {parts others : List α}
  {rest otherRest : List Char}

/-- The text of the parts after the first one, up to the closing character. -/
def continued (write : α → List Char) (close : Char) : List α → List Char
  | [] => [close]
  | part :: parts => ',' :: (write part ++ continued write close parts)

theorem stops_continued (closes : Number.isNumeralChar close = false) (parts : List α)
    (rest : List Char) : Stops (continued write close parts ++ rest) := by
  rintro character first
  cases parts with
  | nil =>
      cases first
      exact closes
  | cons part parts =>
      cases first
      rfl

/-- Every part ends where the next comma or the closing character stands. -/
theorem continued_append_inj (closes : Number.isNumeralChar close = false) (noComma : close ≠ ',')
    (delimits : ∀ part ∈ parts, Delimits write part)
    (same : continued write close parts ++ rest = continued write close others ++ otherRest) :
    parts = others ∧ rest = otherRest := by
  induction parts generalizing others with
  | nil =>
      cases others with
      | nil => exact ⟨rfl, (List.cons.inj same).2⟩
      | cons other others => exact absurd (List.cons.inj same).1 noComma
  | cons part parts inductionHypothesis =>
      obtain ⟨first, later⟩ := List.forall_mem_cons.mp delimits
      cases others with
      | nil => exact absurd (List.cons.inj same).1.symm noComma
      | cons other others =>
          have written := (List.cons.inj same).2
          simp only [List.append_eq, List.append_assoc] at written
          obtain ⟨rfl, onward⟩ := first other _ _ (stops_continued closes parts rest)
            (stops_continued closes others otherRest) written
          obtain ⟨rfl, sameRest⟩ := inductionHypothesis later onward
          exact ⟨rfl, sameRest⟩

end Separation

theorem itemsChars_cons (item : Json) (items : List Json) :
    itemsChars (item :: items) = item.chars ++ continued chars ']' items := by
  induction items generalizing item with
  | nil => rfl
  | cons next items inductionHypothesis =>
      rw [itemsChars, inductionHypothesis]
      rfl

theorem membersChars_cons (member : String × Json) (members : List (String × Json)) :
    membersChars (member :: members) = memberChars member ++ continued memberChars '}' members := by
  induction members generalizing member with
  | nil => rfl
  | cons next members inductionHypothesis =>
      rw [membersChars, inductionHypothesis]
      rfl

/-- What the first character of a text tells about the value. -/
inductive Start where
  | null
  | bool (value : Bool)
  | number
  | string
  | array
  | object

def Start.ofChar? (character : Char) : Option Start :=
  if Number.isNumeralChar character then some .number
  else
    match character with
    | 'n' => some .null
    | 't' => some (.bool true)
    | 'f' => some (.bool false)
    | '"' => some .string
    | '[' => some .array
    | '{' => some .object
    | _ => none

def start : Json → Start
  | .null => .null
  | .bool value => .bool value
  | .number _ => .number
  | .string _ => .string
  | .array _ => .array
  | .object _ => .object

theorem exists_chars_eq_cons (value : Json) :
    ∃ first rest, value.chars = first :: rest ∧ Start.ofChar? first = some value.start := by
  cases value with
  | null => exact ⟨_, _, rfl, rfl⟩
  | bool value => cases value <;> exact ⟨_, _, rfl, rfl⟩
  | number value =>
      obtain ⟨first, rest, written⟩ := List.exists_cons_of_ne_nil value.chars_ne_nil
      have numeral : Number.isNumeralChar first = true :=
        Number.isNumeralChar_of_mem_chars (written ▸ List.mem_cons_self)
      exact ⟨first, rest, written, if_pos numeral⟩
  | string text => exact ⟨_, _, rfl, rfl⟩
  | array items => exact ⟨_, _, rfl, rfl⟩
  | object members => exact ⟨_, _, rfl, rfl⟩

/-- Values whose texts start one text are of one kind. -/
theorem start_eq_of_append_eq {left right : Json} {rest otherRest : List Char}
    (same : left.chars ++ rest = right.chars ++ otherRest) : left.start = right.start := by
  obtain ⟨_, _, leftText, leftStart⟩ := left.exists_chars_eq_cons
  obtain ⟨_, _, rightText, rightStart⟩ := right.exists_chars_eq_cons
  rw [leftText, rightText] at same
  rw [(List.cons.inj same).1, rightStart] at leftStart
  exact (Option.some.inj leftStart).symm

/-- The key of a member ends at its quote, and the value ends where the member ends. -/
theorem delimits_memberChars {member : String × Json} (value : Delimits chars member.2) :
    Delimits memberChars member := by
  rintro ⟨otherKey, other⟩ rest otherRest stops otherStops same
  obtain ⟨key, held⟩ := member
  simp only [memberChars, List.append_assoc, List.cons_append] at same
  obtain ⟨rfl, afterKey⟩ := quoted_append_inj same
  obtain ⟨rfl, sameRest⟩ := value other rest otherRest stops otherStops (List.cons.inj afterKey).2
  exact ⟨rfl, sameRest⟩

theorem itemsChars_append_inj {items others : List Json} {rest otherRest : List Char}
    (delimits : ∀ item ∈ items, Delimits chars item)
    (same : itemsChars items ++ rest = itemsChars others ++ otherRest) :
    items = others ∧ rest = otherRest := by
  have notEmpty (item : Json) (items : List Json) (rest otherRest : List Char) :
      itemsChars [] ++ rest ≠ itemsChars (item :: items) ++ otherRest := by
    intro same
    obtain ⟨first, later, written, starts⟩ := item.exists_chars_eq_cons
    rw [itemsChars_cons, written] at same
    rw [← (List.cons.inj same).1] at starts
    cases starts
  cases items with
  | nil =>
      cases others with
      | nil => exact ⟨rfl, (List.cons.inj same).2⟩
      | cons other others => exact absurd same (notEmpty other others rest otherRest)
  | cons item items =>
      obtain ⟨first, later⟩ := List.forall_mem_cons.mp delimits
      cases others with
      | nil => exact absurd same.symm (notEmpty item items otherRest rest)
      | cons other others =>
          rw [itemsChars_cons, itemsChars_cons, List.append_assoc, List.append_assoc] at same
          obtain ⟨rfl, onward⟩ := first other _ _ (stops_continued rfl items rest)
            (stops_continued rfl others otherRest) same
          obtain ⟨rfl, sameRest⟩ := continued_append_inj rfl (by decide) later onward
          exact ⟨rfl, sameRest⟩

theorem membersChars_append_inj {members others : List (String × Json)} {rest otherRest : List Char}
    (delimits : ∀ member ∈ members, Delimits chars member.2)
    (same : membersChars members ++ rest = membersChars others ++ otherRest) :
    members = others ∧ rest = otherRest := by
  have notEmpty (member : String × Json) (members : List (String × Json)) (rest otherRest : List Char) :
      membersChars [] ++ rest ≠ membersChars (member :: members) ++ otherRest := by
    rw [membersChars_cons]
    obtain ⟨key, value⟩ := member
    exact fun same => nomatch (List.cons.inj same).1
  cases members with
  | nil =>
      cases others with
      | nil => exact ⟨rfl, (List.cons.inj same).2⟩
      | cons other others => exact absurd same (notEmpty other others rest otherRest)
  | cons member members =>
      obtain ⟨first, later⟩ := List.forall_mem_cons.mp delimits
      cases others with
      | nil => exact absurd same.symm (notEmpty member members otherRest rest)
      | cons other others =>
          rw [membersChars_cons, membersChars_cons, List.append_assoc, List.append_assoc] at same
          obtain ⟨rfl, onward⟩ := delimits_memberChars first other _ _ (stops_continued rfl members rest)
            (stops_continued rfl others otherRest) same
          obtain ⟨rfl, sameRest⟩ := continued_append_inj rfl (by decide)
            (fun member listed => delimits_memberChars (later member listed)) onward
          exact ⟨rfl, sameRest⟩

/-- A number ends where the characters of numbers end. -/
theorem number_append_inj {left right : Number} {rest otherRest : List Char} (stops : Stops rest)
    (otherStops : Stops otherRest) (same : left.chars ++ rest = right.chars ++ otherRest) :
    left = right ∧ rest = otherRest := by
  have parts (value : Number) {rest : List Char} (stops : Stops rest) :
      (value.chars ++ rest).takeWhile Number.isNumeralChar = value.chars ∧
        (value.chars ++ rest).dropWhile Number.isNumeralChar = rest :=
    Text.takeWhile_dropWhile_append (fun _ member => Number.isNumeralChar_of_mem_chars member) stops
  obtain ⟨leftChars, leftRest⟩ := parts left stops
  obtain ⟨rightChars, rightRest⟩ := parts right otherStops
  rw [same] at leftChars leftRest
  exact ⟨Number.chars_injective (leftChars.symm.trans rightChars), leftRest.symm.trans rightRest⟩

/-- The text of a value ends where the value ends. -/
theorem delimits_chars (value : Json) : Delimits chars value := by
  induction value using partInduction with
  | null =>
      intro other rest otherRest _ _ same
      have starts := start_eq_of_append_eq same
      cases other <;> cases starts
      exact ⟨rfl, List.append_cancel_left same⟩
  | bool value =>
      intro other rest otherRest _ _ same
      have starts := start_eq_of_append_eq same
      cases other <;> cases starts
      exact ⟨rfl, List.append_cancel_left same⟩
  | number value =>
      intro other rest otherRest stops otherStops same
      have starts := start_eq_of_append_eq same
      cases other <;> cases starts
      obtain ⟨rfl, sameRest⟩ := number_append_inj stops otherStops same
      exact ⟨rfl, sameRest⟩
  | string text =>
      intro other rest otherRest _ _ same
      have starts := start_eq_of_append_eq same
      cases other <;> cases starts
      obtain ⟨rfl, sameRest⟩ := quoted_append_inj same
      exact ⟨rfl, sameRest⟩
  | array items itemsDelimit =>
      intro other rest otherRest _ _ same
      have starts := start_eq_of_append_eq same
      cases other <;> cases starts
      obtain ⟨rfl, sameRest⟩ := itemsChars_append_inj itemsDelimit (List.cons.inj same).2
      exact ⟨rfl, sameRest⟩
  | object members membersDelimit =>
      intro other rest otherRest _ _ same
      have starts := start_eq_of_append_eq same
      cases other <;> cases starts
      obtain ⟨rfl, sameRest⟩ := membersChars_append_inj membersDelimit (List.cons.inj same).2
      exact ⟨rfl, sameRest⟩

theorem chars_injective : Function.Injective chars := by
  intro left right same
  have stops : Stops [] := fun _ member => nomatch member
  exact (left.delimits_chars right [] [] stops stops (by rw [same])).1

/-- The text of a value determines the value. -/
theorem text_injective : Function.Injective text := fun _ _ same =>
  chars_injective (String.ofList_inj.mp same)

end Json

end Forms
