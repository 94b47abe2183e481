/-
This file proves that the groups of options consist of their fields. The widgets are themselves a group of
options and one field of the options of rendering.
-/

import Forms.Proofs.Options.Overrides

namespace Forms

theorem Kind.mem_all (kind : Kind) : kind ∈ all := by
  cases kind <;> decide

namespace Widgets

variable {values : Kind → Json} {widgets : Widgets}

/-- Every kind has a field for its widget. -/
def fields : List (OptionField Widgets) :=
  Kind.all.map fun kind => .text kind.name fun widgets => widgets.forKind kind

/-- The object with a member for every kind. -/
def members (values : Kind → Json) : List (String × Json) :=
  Kind.all.map fun kind => (kind.name, values kind)

theorem given_members : shape.given (.object (members values)) = members values := by
  refine List.filter_eq_self.mpr fun member listed => ?_
  obtain ⟨kind, known, rfl⟩ := List.mem_map.mp listed
  exact List.contains_iff_mem.mpr (List.mem_map_of_mem known)

theorem fits_members : shape.Fits (.object (members values)) := by
  intro name listed _
  obtain ⟨kind, known, rfl⟩ := List.mem_map.mp listed
  exact List.mem_map.mpr ⟨_, List.mem_map_of_mem known, rfl⟩

/-- Widgets are read from one text for every kind. -/
theorem ofJson_members_eq_ok_iff :
    ofJson (.object (members values)) = .ok widgets ↔
      ∀ kind, (values kind).toText = .ok (widgets.forKind kind) := by
  rw [ofJson, bind_eq_ok_iff]
  simp only [RecordShape.read_eq_ok_iff, given_members, fits_members, true_and]
  constructor
  · rintro ⟨fields, read, same⟩ kind
    have given : (members values).lookup kind.name = some (values kind) := by
      cases kind <;> rfl
    obtain ⟨text, found, readText⟩ := RecordShape.exists_lookup_of_readsAs read given
    have content : fieldFor fields kind = text := by
      rw [fieldFor, found, Option.getD_some]
    cases same
    rw [readText, ← content]
    cases kind <;> rfl
  · intro read
    refine ⟨Kind.all.map fun kind => (kind.name, widgets.forKind kind), ?_, rfl⟩
    rw [members, List.forall₂_map_left_iff, List.forall₂_map_right_iff, List.forall₂_same]
    exact fun kind _ => ⟨rfl, read kind⟩

/-- Widgets with one text for every kind. -/
def ofTexts (text : Kind → String) : Widgets :=
  ⟨text .string, text .integer, text .decimal, text .boolean, text .date, text .object, text .array⟩

theorem forKind_ofTexts (text : Kind → String) (kind : Kind) :
    (ofTexts text).forKind kind = text kind := by
  cases kind <;> rfl

theorem ofJson_toJson (widgets : Widgets) : ofJson widgets.toJson = .ok widgets :=
  ofJson_members_eq_ok_iff.mpr fun _ => rfl

theorem consistsOf : group.ConsistsOf fields where
  write_eq _ := rfl
  read_eq_ok_iff values widgets := by
    rw [fields, List.map_map, List.forall_mem_map]
    refine Iff.trans ofJson_members_eq_ok_iff ?_
    exact ⟨fun read kind _ => read kind, fun read kind => read kind kind.mem_all⟩
  exists_options values readable := by
    rw [fields, List.forall_mem_map] at readable
    choose text read using fun kind => readable kind kind.mem_all
    refine ⟨ofTexts text, List.forall_mem_map.mpr fun kind _ => ?_⟩
    exact (read kind).trans (congrArg Except.ok (forKind_ofTexts text kind).symm)

end Widgets

namespace RenderOptions

/-- The widgets are one value, so overrides replace them all at once. -/
def fields : List (OptionField RenderOptions) := [
  .text "label_prefix" labelPrefix,
  { name := "widgets"
    Content := Widgets
    content := widgets
    write := Widgets.toJson
    read := Widgets.ofJson
    read_write := Widgets.ofJson_toJson }]

theorem consistsOf : group.ConsistsOf fields := by
  refine OptionGroup.consistsOf_pair mk (fun _ => rfl) (fun text inner => ?_) (fun _ _ => rfl)
    (fun _ _ => rfl) (fun _ => rfl)
  have readText : readField "label_prefix" text = Field.labelPrefix <$> text.toText := rfl
  have readWidgets : readField "widgets" inner = Field.widgets <$> Widgets.ofJson inner := rfl
  change ofFields <$> shape.read readField (.object [("label_prefix", text), ("widgets", inner)]) =
    text.toText >>= fun content => Widgets.ofJson inner >>= fun next => .ok ⟨content, next⟩
  rw [RecordShape.read_pair rfl, readText, readWidgets]
  cases text.toText <;> cases Widgets.ofJson inner <;> rfl

end RenderOptions

namespace ValidationOptions

def fields : List (OptionField ValidationOptions) := [
  .text "fallback_message_key" fallbackKey,
  { name := "deduplicate_messages"
    Content := Bool
    content := deduplicate
    write := .bool
    read := Json.toFlag
    read_write := fun _ => rfl }]

theorem consistsOf : group.ConsistsOf fields := by
  refine OptionGroup.consistsOf_pair mk (fun _ => rfl) (fun text flag => ?_) (fun _ _ => rfl)
    (fun _ _ => rfl) (fun _ => rfl)
  have readText : readField "fallback_message_key" text = Field.fallbackKey <$> text.toText := rfl
  have readFlag : readField "deduplicate_messages" flag = Field.deduplicate <$> flag.toFlag := rfl
  change ofFields <$> shape.read readField
      (.object [("fallback_message_key", text), ("deduplicate_messages", flag)]) =
    text.toText >>= fun content => flag.toFlag >>= fun next => .ok ⟨content, next⟩
  rw [RecordShape.read_pair rfl, readText, readFlag]
  cases text.toText <;> cases flag.toFlag <;> rfl

end ValidationOptions

end Forms
