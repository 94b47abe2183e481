/-
This file proves that a schema is read from a text as it is read from the value of the text. The reader
of texts and the reader of values take the same parts from the same places.
-/

import Forms.Proofs.Json.Drafts
import Forms.Proofs.Schema.Reading

namespace Forms

namespace Declaration

variable {room : Nat} {draft : Draft} {value : Json}

theorem countKey_le_one {members : List (Option String × Draft)}
    (distinct : (members.map Prod.fst).Nodup) (key : String) : countKey key members ≤ 1 := by
  have counted := List.nodup_iff_count.mp distinct (some key)
  rwa [List.count_eq_countP, List.countP_map] at counted

/-- A declaration that repeats no key is read from its value. -/
theorem ofDraft_eq (parsed : draft.toJson? room = some value) (distinct : draft.keys.Nodup) :
    ofDraft room draft = ofJson value := by
  rw [ofDraft, parsed]
  cases draft with
  | object members closed =>
      have once (key : String) : ¬ 1 < countKey key members :=
        Nat.not_lt.mpr (countKey_le_one distinct key)
      simp [once]
  | _ => rfl

end Declaration

namespace Schema

variable {room : Nat} {draft : Draft} {value : Json}

/-- The name of a slot is the name that the slot is found by. -/
theorem Slot.name_of_ofName? {name : String} {slot : Slot} (found : ofName? name = some slot) :
    slot.name = name := by
  have matched := List.find?_some found
  exact beq_iff_eq.mp matched

section Plain

theorem toOption_optionalTextOfDraft (parsed : draft.toJson? room = some value) :
    (optionalTextOfDraft draft).toOption = value.toOptionalText.toOption := by
  cases Draft.standsFor_of_toJson? parsed <;> rfl

/-- The kind of a schema is read from its name, or from an object with the name as its only key. -/
theorem toOption_kindOfDraft (parsed : draft.toJson? room = some value) (distinct : draft.keys.Nodup) :
    (kindOfDraft room draft).toOption = (kindOfJson value).toOption := by
  cases Draft.standsFor_of_toJson? parsed with
  | object each =>
      rw [Json.collectMembers_of_nodup (Draft.nodup_of_isMember each distinct)]
      cases each with
      | nil => rfl
      | @cons member entry members entries first later =>
          obtain ⟨key, inner⟩ := member
          obtain ⟨name, content⟩ := entry
          obtain ⟨rfl, read⟩ := first
          have content := Draft.standsFor_of_toJson? read
          rw [kindOfDraft, if_neg (Nat.succ_ne_zero _)]
          cases later with
          | nil =>
              rw [kindOfJson]
              cases kindOfName name <;> cases content <;> rfl
          | cons => cases kindOfName name <;> cases content <;> rfl
  | _ => rfl

theorem mapM_ofDraft {items : List Draft} {values : List Json}
    (each : List.Forall₂ (fun item value => item.toJson? room = some value) items values)
    (distinct : ∀ item ∈ items, item.keys.Nodup) :
    items.mapM (Declaration.ofDraft room) = values.mapM Declaration.ofJson := by
  induction each with
  | nil => rfl
  | cons first _ inductionHypothesis =>
      obtain ⟨distinctFirst, distinctRest⟩ := List.forall_mem_cons.mp distinct
      rw [List.mapM_cons, List.mapM_cons, Declaration.ofDraft_eq first distinctFirst,
        inductionHypothesis distinctRest]

theorem toOption_checksOfDraft (parsed : draft.toJson? room = some value)
    (distinct : ∀ part ∈ draft.parts, part.keys.Nodup) :
    (checksOfDraft room draft).toOption = (checksOfJson value).toOption := by
  cases Draft.standsFor_of_toJson? parsed with
  | array each =>
      simp only [checksOfDraft, if_true, mapM_ofDraft each distinct]
      change _ = (List.mapM Declaration.ofJson _).toOption
      cases List.mapM Declaration.ofJson _ <;> rfl
  | _ => rfl

theorem toOption_childrenOfDraft (parsed : draft.toJson? room = some value) :
    (Part.children <$> childrenOfDraft room draft).toOption = (partOfItem .children value).toOption := by
  cases Draft.standsFor_of_toJson? parsed with
  | object each =>
      rw [childrenOfDraft, parsed]
      rfl
  | _ => rfl

/-- The parts that hold no schema read from the same text are read from their values. -/
theorem toOption_plainPartOfDraft (parsed : draft.toJson? room = some value)
    (distinct : draft.DistinctMembers) {slot : Slot} (notItems : slot ≠ .items) :
    (plainPartOfDraft room slot draft).toOption = (partOfItem slot value).toOption := by
  cases distinct with
  | draft keys parts =>
      have partKeys (part : Draft) (member : part ∈ draft.parts) : part.keys.Nodup :=
        (parts part member).keys_nodup
      cases slot with
      | items => exact absurd rfl notItems
      | children => exact toOption_childrenOfDraft parsed
      | kind =>
          rw [partOfItem_plain value (by decide) (by decide)]
          exact toOption_map_congr Part.kind (toOption_kindOfDraft parsed keys)
      | checks =>
          rw [partOfItem_plain value (by decide) (by decide)]
          exact toOption_map_congr Part.checks (toOption_checksOfDraft parsed partKeys)
      | _ =>
          rw [partOfItem_plain value (by decide) (by decide)]
          exact toOption_map_congr _ (toOption_optionalTextOfDraft parsed)

end Plain

section Nested

/-- The items of a field are missing when they are null, and otherwise they are a schema. -/
theorem partOfDraftItem_items (present : draft ≠ .null) :
    partOfDraftItem room .items draft = (Part.items ∘ some) <$> ofDraft room draft := by
  cases draft with
  | null => exact absurd rfl present
  | array items closed =>
      cases room with
      | zero => rfl
      | succ below =>
          rw [partOfDraftItem, ofDraft, map_bind]
          rfl
  | object members closed =>
      cases room with
      | zero => rfl
      | succ below =>
          rw [partOfDraftItem, ofDraft, map_bind]
          cases closed <;> rfl
  | number number => cases number <;> rfl
  | string text => cases text <;> rfl
  | _ => rfl

theorem partOfDraftItem_plain {slot : Slot} (notItems : slot ≠ .items) :
    partOfDraftItem room slot draft = plainPartOfDraft room slot draft := by
  cases draft <;> simp [partOfDraftItem, notItems]

/-- A member with the name of a slot is read like an item at the place of the slot. -/
theorem partOfDraftMember_eq (slot : Slot) (key : Option String) :
    partOfDraftMember room slot (key, draft) = partOfDraftItem room slot draft := by
  cases slot with
  | items =>
      cases draft with
      | null => rfl
      | _ => exact (partOfDraftItem_items (by simp)).symm
  | _ => cases draft <;> rfl

/-- The draft is read as the value is read, at every slot. -/
def ReadsAlike (draft : Draft) : Prop :=
  ∀ room value slot, draft.toJson? room = some value →
    (partOfDraftItem room slot draft).toOption = (partOfItem slot value).toOption

theorem toOption_partsOfDraftMembers {members : List (Option String × Draft)}
    {entries : List (String × Json)} (each : List.Forall₂ (Draft.IsMember room) members entries)
    (alike : ∀ member ∈ members, ReadsAlike member.2) (distinct : (entries.map Prod.fst).Nodup)
    (seen : List Slot) (fresh : ∀ slot ∈ seen, slot.name ∉ entries.map Prod.fst) :
    (partsOfDraftMembers room seen members).toOption = (partsOfMembers entries).toOption := by
  induction each generalizing seen with
  | nil => rfl
  | @cons member entry members entries first _ inductionHypothesis =>
      obtain ⟨key, inner⟩ := member
      obtain ⟨name, content⟩ := entry
      obtain ⟨rfl, read⟩ := first
      obtain ⟨alikeFirst, alikeRest⟩ := List.forall_mem_cons.mp alike
      obtain ⟨once, distinctRest⟩ := List.nodup_cons.mp distinct
      have freshRest : ∀ slot ∈ seen, slot.name ∉ entries.map Prod.fst := fun slot met repeated =>
        fresh slot met (List.mem_cons_of_mem _ repeated)
      rw [partsOfDraftMembers, partsOfMembers, partOfMember_eq]
      simp only [Option.map_some]
      cases named : Slot.ofName? name with
      | none =>
          simp only [Draft.whole_of_toJson? read, if_true, Option.map_none]
          exact inductionHypothesis alikeRest distinctRest seen freshRest
      | some slot =>
          have sameName := Slot.name_of_ofName? named
          have notSeen : seen.contains slot = false := by
            simpa using fun met => fresh slot met (sameName ▸ List.mem_cons_self)
          have freshNext : ∀ other ∈ slot :: seen, other.name ∉ entries.map Prod.fst :=
            List.forall_mem_cons.mpr ⟨sameName ▸ once, freshRest⟩
          have firstPart := alikeFirst room content slot read
          have laterParts := inductionHypothesis alikeRest distinctRest (slot :: seen) freshNext
          simp only [notSeen, Bool.false_eq_true, if_false, Option.map_some, partOfDraftMember_eq]
          exact toOption_bind_congr firstPart fun part => toOption_bind_congr laterParts fun _ => rfl

theorem toOption_partsOfDraftItems {items : List Draft} {values : List Json}
    (each : List.Forall₂ (fun item value => item.toJson? room = some value) items values)
    (alike : ∀ item ∈ items, ReadsAlike item) (position : Nat) (slots : List Slot) :
    (partsOfDraftItems room true position slots items).toOption =
      (partsOfItems position slots values).toOption := by
  induction each generalizing position slots with
  | nil =>
      cases slots with
      | nil => rfl
      | cons slot slots => rfl
  | @cons item value items values first _ inductionHypothesis =>
      obtain ⟨alikeFirst, alikeRest⟩ := List.forall_mem_cons.mp alike
      cases slots with
      | nil => rfl
      | cons slot slots =>
          have firstPart := alikeFirst room value slot first
          have laterParts := inductionHypothesis alikeRest (position + 1) slots
          rw [partsOfDraftItems, partsOfItems]
          exact toOption_bind_congr firstPart fun part => toOption_bind_congr laterParts fun _ => rfl

/-- A draft is read as its value is read when its parts are. -/
theorem toOption_ofDraft_of_parts (parsed : draft.toJson? room = some value)
    (keys : draft.keys.Nodup) (alike : ∀ part ∈ draft.parts, ReadsAlike part) :
    (ofDraft room draft).toOption = (ofJson value).toOption := by
  cases Draft.standsFor_of_toJson? parsed with
  | object each =>
      have distinct := Draft.nodup_of_isMember each keys
      have parts := toOption_partsOfDraftMembers each (List.forall_mem_map.mp alike) distinct []
        (fun _ met => nomatch met)
      rw [Json.collectMembers_of_nodup distinct, ofDraft, ofJson]
      exact toOption_bind_congr parts fun _ => rfl
  | array each =>
      have parts := toOption_partsOfDraftItems each alike 0 Slot.all
      rw [ofDraft, ofJson]
      exact toOption_bind_congr parts fun _ => rfl
  | _ => rfl

/-- A draft without repeated keys is read as its value is read. The induction is on the parts of the
draft, since items hold schemas inside one another. -/
theorem readsAlike_of_distinctMembers (distinct : draft.DistinctMembers) : ReadsAlike draft := by
  induction distinct with
  | @draft draft keys parts partHypothesis =>
      intro room value slot parsed
      by_cases isItems : slot = .items
      · subst isItems
        by_cases missing : draft = .null
        · subst missing
          cases parsed
          rfl
        · have present : value ≠ .null := by
            rintro rfl
            cases Draft.standsFor_of_toJson? parsed
            exact missing rfl
          rw [partOfDraftItem_items missing, partOfItem_items value present]
          exact toOption_map_congr _ (toOption_ofDraft_of_parts parsed keys partHypothesis)
      · rw [partOfDraftItem_plain isItems,
          toOption_plainPartOfDraft parsed (.draft keys parts) isItems]

theorem toOption_ofDraft (parsed : draft.toJson? room = some value)
    (distinct : draft.DistinctMembers) : (ofDraft room draft).toOption = (ofJson value).toOption := by
  cases distinct with
  | draft keys parts =>
      exact toOption_ofDraft_of_parts parsed keys fun part member =>
        readsAlike_of_distinctMembers (parts part member)

end Nested

/-- A schema is read from a text in which no object repeats a key just when it is read from the value of
the text, and it is the same schema. -/
theorem ofText_eq_ok_iff_ofJson {text : String} (parsed : Json.ofText? text = some value)
    (distinct : (Draft.ofText text).1.DistinctMembers) (schema : Schema) :
    ofText text = .ok schema ↔ ofJson value = .ok schema := by
  rw [Json.ofText?] at parsed
  split at parsed
  next draft rest scanned =>
    split at parsed
    · next ends =>
        rw [scanned] at distinct
        have read : ofText text = ofDraft Draft.nestingRoom draft := by
          simp only [ofText, scanned, ends, if_true]
          exact bind_pure _
        rw [read, ← toOption_eq_some_iff, toOption_ofDraft parsed distinct, toOption_eq_some_iff]
    · cases parsed

/-- An array form with an unused member, items without names and its type at the end. -/
def guestsText : String :=
  "\x7b\"unused\": 1, \"items\": [\"string\"], \"validators\": [\"required\"], \"children\": " ++
    "\x7b\"since\": \x7b\"type\": \"date\"\x7d\x7d, \"type\": \"array\"\x7d"

def guestsDraft : Draft :=
  .object [(some "unused", .number (some (.int 1))), (some "items", .array [.string (some "string")] true),
    (some "validators", .array [.string (some "required")] true),
    (some "children", .object [(some "since", .object [(some "type", .string (some "date"))] true)] true),
    (some "type", .string (some "array"))] true

def guestsValue : Json :=
  .object [("unused", .number (.int 1)), ("items", .array [.string "string"]),
    ("validators", .array [.string "required"]),
    ("children", .object [("since", .object [("type", .string "date")])]), ("type", .string "array")]

def guestsSchema : Schema :=
  { kind := .array, checks := [.bare "required"], children := [("since", { kind := .date })],
    items := some { kind := .string } }

set_option maxRecDepth 4000 in
theorem ofText_guestsText : Draft.ofText guestsText = (guestsDraft, some []) := rfl

theorem distinctMembers_guestsDraft : guestsDraft.DistinctMembers := by
  have one : Draft.DistinctMembers (.number (some (.int 1))) :=
    .draft .nil fun _ inside => nomatch inside
  have text (content : String) : Draft.DistinctMembers (.string (some content)) :=
    .draft .nil fun _ inside => nomatch inside
  have single (content : String) : Draft.DistinctMembers (.array [.string (some content)] true) :=
    .draft .nil fun _ inside => List.mem_singleton.mp inside ▸ text content
  have date : Draft.DistinctMembers (.object [(some "type", .string (some "date"))] true) :=
    .draft (by decide) fun _ inside => List.mem_singleton.mp inside ▸ text "date"
  have children : Draft.DistinctMembers
      (.object [(some "since", .object [(some "type", .string (some "date"))] true)] true) :=
    .draft (by decide) fun _ inside => List.mem_singleton.mp inside ▸ date
  exact .draft (by decide) (by simp [guestsDraft, Draft.parts, one, single, children, text])

theorem ofText_agrees_guests :
    Json.ofText? guestsText = some guestsValue ∧ (Draft.ofText guestsText).1.DistinctMembers ∧
      ofJson guestsValue = .ok guestsSchema ∧ ofText guestsText = .ok guestsSchema := by
  have parsed : Json.ofText? guestsText = some guestsValue := by
    rw [Json.ofText?, ofText_guestsText]
    rfl
  have distinct : (Draft.ofText guestsText).1.DistinctMembers := by
    rw [ofText_guestsText]
    exact distinctMembers_guestsDraft
  have read : ofJson guestsValue = .ok guestsSchema := rfl
  exact ⟨parsed, distinct, read, (ofText_eq_ok_iff_ofJson parsed distinct guestsSchema).mpr read⟩

end Schema

end Forms
