/-
This file proves that schemas survive being written and read. A schema can be spelled in several ways,
every spelling is read as the schema, and the written form is one of them.
-/

import Forms.Proofs.Schema.Reading
import Forms.Schema.Encode

namespace Forms

namespace Declaration

/-- A declaration is spelled as an object, and by its name alone when it has no parameters. -/
inductive Spelling : Declaration → Json → Prop where
  | short (id : String) : Spelling (bare id) (.string id)
  | typed (id : String) : Spelling (bare id) (.object [("type", .string id)])
  | full (declaration : Declaration) :
      Spelling declaration (.object [("type", .string declaration.id), ("params", declaration.params)])

variable {declaration : Declaration} {value : Json}

theorem Spelling.read (spelling : declaration.Spelling value) : ofJson value = .ok declaration := by
  cases spelling with
  | short id => rfl
  | typed id => simp [ofJson, Json.findMember, bare]
  | full => simp [ofJson, Json.findMember]

theorem spelling_toJson (declaration : Declaration) : declaration.Spelling declaration.toJson := by
  obtain ⟨id, params⟩ := declaration
  rw [toJson]
  split
  · next missing =>
      cases missing
      exact .typed id
  · exact .full ⟨id, params⟩

end Declaration

namespace Schema

theorem Slot.mem_all (slot : Slot) : slot ∈ all := by
  cases slot <;> decide

section Slots

variable (schema : Schema)

/-- The part of a schema at a slot. -/
def part : Slot → Part
  | .kind => .kind schema.kind
  | .label => .label schema.label
  | .widget => .widget schema.widget
  | .hint => .hint schema.hint
  | .checks => .checks schema.checks
  | .children => .children schema.children
  | .items => .items schema.items

/-- A schema cannot be put together without these slots. -/
def needs : Slot → Bool
  | .kind => true
  | .label => schema.label.isSome
  | .widget => schema.widget.isSome
  | .hint => schema.hint.isSome
  | .checks => !schema.checks.isEmpty
  | .children => !schema.children.isEmpty
  | .items => schema.items.isSome

def optionalText (text : Option String) : Json := (text.map Json.string).getD .null

/-- The value at a slot, for a spelling of the declarations and of the schemas inside. -/
def content (spell : Declaration → Json) (encode : Schema → Json) : Slot → Json
  | .kind => .string schema.kind.name
  | .label => optionalText schema.label
  | .widget => optionalText schema.widget
  | .hint => optionalText schema.hint
  | .checks => .array (schema.checks.map spell)
  | .children => .object (schema.children.map fun child => (child.1, encode child.2))
  | .items => (schema.items.map encode).getD .null

/-- The collected parts agree with the schema at a slot. -/
def Partial.Agrees (collected : Partial) : Slot → Prop
  | .kind => collected.kind = some schema.kind
  | .label => collected.label = schema.label
  | .widget => collected.widget = schema.widget
  | .hint => collected.hint = schema.hint
  | .checks => collected.checks = schema.checks
  | .children => collected.children = schema.children
  | .items => collected.items = schema.items

end Slots

variable {schema : Schema}

theorem Partial.agrees_add (collected : Partial) (slot : Slot) :
    (collected.add (schema.part slot)).Agrees schema slot := by
  cases slot <;> rfl

theorem Partial.Agrees.add {collected : Partial} {slot : Slot} (agrees : collected.Agrees schema slot)
    (other : Slot) : (collected.add (schema.part other)).Agrees schema slot := by
  cases other <;> cases slot <;> first | rfl | exact agrees

theorem Partial.agrees_foldl {slots : List Slot} {collected : Partial} {slot : Slot}
    (covered : slot ∈ slots ∨ collected.Agrees schema slot) :
    ((slots.map schema.part).foldl Partial.add collected).Agrees schema slot := by
  induction slots generalizing collected with
  | nil => exact covered.resolve_left List.not_mem_nil
  | cons first later inductionHypothesis =>
      apply inductionHypothesis
      rcases covered with listed | agrees
      · rcases List.mem_cons.mp listed with rfl | inLater
        · exact .inr (collected.agrees_add slot)
        · exact .inl inLater
      · exact .inr (agrees.add first)

/-- What a schema does not need is missing from the start. -/
theorem Partial.agrees_of_not_needs {slot : Slot} (unneeded : schema.needs slot = false) :
    Partial.Agrees schema {} slot := by
  cases slot with
  | kind => cases unneeded
  | _ =>
      simp only [needs, Option.isSome_eq_false_iff, Option.isNone_iff_eq_none, Bool.not_eq_false',
        List.isEmpty_iff] at unneeded
      exact unneeded.symm

/-- A schema is put together from its parts when every part that it needs is among them. -/
theorem ofParts_parts {slots : List Slot} (complete : ∀ slot, schema.needs slot = true → slot ∈ slots) :
    ofParts (slots.map schema.part) = .ok schema := by
  have agrees (slot : Slot) :
      ((slots.map schema.part).foldl Partial.add {}).Agrees schema slot := by
    apply Partial.agrees_foldl
    cases needed : schema.needs slot with
    | true => exact .inl (complete slot needed)
    | false => exact .inr (Partial.agrees_of_not_needs needed)
  have kind := agrees .kind
  have label := agrees .label
  have widget := agrees .widget
  have hint := agrees .hint
  have checks := agrees .checks
  have children := agrees .children
  have items := agrees .items
  simp only [Partial.Agrees] at kind label widget hint checks children items
  simp only [ofParts, kind, label, widget, hint, checks, children, items]
  cases schema
  rfl

/-- A schema is spelled as an object, or as an array that lists the slots in their order and may stop
early. The slots that the schema needs are all there. The schemas inside it are spelled in their own
ways. -/
inductive Spelling : Schema → Json → Prop where
  | members {schema : Schema} {spell : Declaration → Json} {encode : Schema → Json}
      (checks : ∀ check ∈ schema.checks, check.Spelling (spell check))
      (children : ∀ child ∈ schema.children, Spelling child.2 (encode child.2))
      (items : ∀ item ∈ schema.items, Spelling item (encode item))
      {slots : List Slot} (complete : ∀ slot, schema.needs slot = true → slot ∈ slots) :
      Spelling schema
        (.object (slots.map fun slot => (slot.name, schema.content spell encode slot)))
  | listed {schema : Schema} {spell : Declaration → Json} {encode : Schema → Json}
      (checks : ∀ check ∈ schema.checks, check.Spelling (spell check))
      (children : ∀ child ∈ schema.children, Spelling child.2 (encode child.2))
      (items : ∀ item ∈ schema.items, Spelling item (encode item))
      {slots rest : List Slot} (order : slots ++ rest = Slot.all)
      (complete : ∀ slot, schema.needs slot = true → slot ∈ slots) :
      Spelling schema (.array (slots.map (schema.content spell encode)))

theorem toOptionalText_optionalText (text : Option String) :
    (optionalText text).toOptionalText = .ok text := by
  cases text <;> rfl

theorem checksOfJson_array {checks : List Declaration} {spell : Declaration → Json}
    (spelled : ∀ check ∈ checks, check.Spelling (spell check)) :
    checksOfJson (.array (checks.map spell)) = .ok checks := by
  have read : (checks.map spell).mapM Declaration.ofJson = .ok checks := by
    induction checks with
    | nil => rfl
    | cons check checks inductionHypothesis =>
        obtain ⟨first, later⟩ := List.forall_mem_cons.mp spelled
        rw [List.map_cons, List.mapM_cons, first.read, inductionHypothesis later]
        rfl
  exact read

theorem childrenOfMembers_map {children : List (String × Schema)} {encode : Schema → Json}
    (read : ∀ child ∈ children, ofJson (encode child.2) = .ok child.2) :
    childrenOfMembers (children.map fun child => (child.1, encode child.2)) = .ok children := by
  induction children with
  | nil => rfl
  | cons child children inductionHypothesis =>
      obtain ⟨first, later⟩ := List.forall_mem_cons.mp read
      rw [List.map_cons, childrenOfMembers, childOfMember, first, inductionHypothesis later]
      rfl

/-- Every slot is read back when the schemas inside are. -/
theorem partOfItem_content {spell : Declaration → Json} {encode : Schema → Json}
    (checks : ∀ check ∈ schema.checks, check.Spelling (spell check))
    (children : ∀ child ∈ schema.children, ofJson (encode child.2) = .ok child.2)
    (items : ∀ item ∈ schema.items, ofJson (encode item) = .ok item) (slot : Slot) :
    partOfItem slot (schema.content spell encode slot) = .ok (schema.part slot) := by
  cases slot with
  | kind =>
      rw [partOfItem_plain _ (by decide) (by decide)]
      rw [plainPart, content, kindOfJson, kindOfName, Kind.ofName?_name]
      rfl
  | label | widget | hint =>
      rw [partOfItem_plain _ (by decide) (by decide)]
      rw [plainPart, content, toOptionalText_optionalText]
      rfl
  | checks =>
      rw [partOfItem_plain _ (by decide) (by decide)]
      simp only [plainPart, content, checksOfJson_array checks]
      rfl
  | children =>
      rw [content, partOfItem, childrenOfMembers_map children]
      rfl
  | items =>
      cases held : schema.items with
      | none =>
          rw [content, part, held]
          rfl
      | some item =>
          rw [content, part, held, Option.map_some, Option.getD_some,
            partOfItem_items_of_ofJson (items item held)]

/-- Every spelling of a schema is read as the schema. -/
theorem Spelling.read {value : Json} (spelling : schema.Spelling value) :
    ofJson value = .ok schema := by
  induction spelling with
  | members checks _ _ complete children items =>
      rw [ofJson, partsOfMembers_map fun slot _ => partOfItem_content checks children items slot]
      exact ofParts_parts complete
  | listed checks _ _ order complete children items =>
      have distinct : Slot.all.Nodup := by decide
      rw [← order] at distinct
      have kindRead : Slot.kind ∉ _ := fun later =>
        (List.nodup_append.mp distinct).2.2 _ (complete .kind rfl) _ later rfl
      rw [ofJson, ← order,
        partsOfItems_map (fun slot _ => partOfItem_content checks children items slot) kindRead]
      exact ofParts_parts complete

theorem childMembers_eq (children : List (String × Schema)) :
    childMembers children = children.map fun child => (child.1, child.2.toJson) := by
  induction children with
  | nil => rfl
  | cons child children inductionHypothesis =>
      rw [childMembers, childMember, inductionHypothesis, List.map_cons]

/-- The members of the written form for some of the slots. -/
def written (schema : Schema) (slots : List Slot) : List (String × Json) :=
  (slots.filter schema.needs).map fun slot =>
    (slot.name, schema.content Declaration.toJson toJson slot)

theorem written_append (first later : List Slot) :
    schema.written (first ++ later) = schema.written first ++ schema.written later := by
  rw [written, List.filter_append, List.map_append, written, written]

theorem textMember_eq_written (slot : Slot) {text : Option String}
    (needed : schema.needs slot = text.isSome)
    (held : schema.content Declaration.toJson toJson slot = optionalText text) :
    textMember slot.name text = schema.written [slot] := by
  cases text <;> simp [written, needed, held, textMember, optionalText]

theorem checksMember_eq_written : checksMember schema.checks = schema.written [.checks] := by
  cases held : schema.checks <;> simp [written, needs, content, checksMember, held, Slot.name]

theorem childrenMember_eq_written (keys : (schema.children.map Prod.fst).Nodup) :
    (if schema.children.isEmpty then []
      else [("children", Json.object (Json.collectMembers (childMembers schema.children)))]) =
      schema.written [.children] := by
  have collected : Json.collectMembers (childMembers schema.children) =
      schema.children.map fun child => (child.1, child.2.toJson) := by
    rw [childMembers_eq, Json.collectMembers_of_nodup (by simpa [Function.comp_def] using keys)]
  rw [collected]
  cases held : schema.children <;> simp [written, needs, content, held, Slot.name]

theorem itemsMember_eq_written : itemsMember schema.items = schema.written [.items] := by
  cases held : schema.items <;> simp [written, needs, content, itemsMember, held, Slot.name]

/-- A schema is written as an object with exactly the slots that it needs. -/
theorem toJson_eq (keys : (schema.children.map Prod.fst).Nodup) :
    schema.toJson = .object (schema.written Slot.all) := by
  have label : textMember "label" schema.label = schema.written [.label] :=
    textMember_eq_written .label rfl rfl
  have widget : textMember "widget" schema.widget = schema.written [.widget] :=
    textMember_eq_written .widget rfl rfl
  have hint : textMember "hint" schema.hint = schema.written [.hint] :=
    textMember_eq_written .hint rfl rfl
  have every : Slot.all = [.kind] ++ ([.label] ++ [.widget] ++ [.hint] ++ [.checks] ++ [.children] ++
      [.items]) := rfl
  rw [every]
  simp only [written_append]
  rw [← label, ← widget, ← hint, ← checksMember_eq_written, ← childrenMember_eq_written keys,
    ← itemsMember_eq_written]
  cases schema
  rfl

/-- The written form is one of the spellings. -/
theorem spelling_toJson (distinct : schema.DistinctKeys) : schema.Spelling schema.toJson := by
  induction distinct with
  | field keys _ _ children items =>
      rw [toJson_eq keys, written]
      exact .members (fun check _ => check.spelling_toJson) children items fun slot needed =>
        List.mem_filter.mpr ⟨slot.mem_all, needed⟩

/-- A schema is read back from what it is written as, also after it was read from another spelling. All
spellings of a schema have one written form. -/
theorem encoding_exact :
    (∀ schema : Schema, schema.DistinctKeys → ofJson schema.toJson = .ok schema) ∧
    (∀ (value : Json) (schema : Schema), value.DistinctMembers → ofJson value = .ok schema →
      schema.DistinctKeys ∧ ofJson schema.toJson = .ok schema) ∧
    (∀ (schema : Schema) (value : Json), schema.Spelling value →
      toJson <$> ofJson value = .ok schema.toJson) := by
  have exact (schema : Schema) (distinct : schema.DistinctKeys) :
      ofJson schema.toJson = .ok schema := (spelling_toJson distinct).read
  refine ⟨exact, ?_, ?_⟩
  · intro value schema distinctMembers read
    have distinct := distinctKeys_of_ofJson distinctMembers read
    exact ⟨distinct, exact schema distinct⟩
  · intro schema value spelling
    rw [spelling.read]
    rfl

/-- A schema with a check, children and items, listed slot by slot. -/
def tagsListed : Json :=
  .array [.string "array", .string "Tags", .null, .null, .array [.string "required"],
    .object [("since", .array [.string "date"]), ("open", .array [.string "boolean"])],
    .array [.string "string"]]

def tagsSchema : Schema :=
  { kind := .array, label := some "Tags", checks := [.bare "required"],
    children := [("since", { kind := .date }), ("open", { kind := .boolean })],
    items := some { kind := .string } }

theorem spelling_tagsListed : tagsSchema.Spelling tagsListed := by
  let spell (check : Declaration) : Json := .string check.id
  let encode (inner : Schema) : Json := .array [.string inner.kind.name]
  have plain (kind : Kind) : Spelling { kind } (.array [.string kind.name]) := by
    refine @Spelling.listed { kind } spell encode ?_ ?_ ?_ [.kind] _ rfl ?_
    · exact fun _ listed => nomatch listed
    · exact fun _ listed => nomatch listed
    · exact fun _ held => nomatch held
    · intro slot needed
      cases slot <;> first | exact List.mem_singleton_self _ | cases needed
  refine @Spelling.listed tagsSchema spell encode ?_ ?_ ?_ Slot.all [] rfl fun slot _ => slot.mem_all
  · exact fun check listed => List.mem_singleton.mp listed ▸ .short "required"
  · simp [tagsSchema, encode, plain]
  · simp [tagsSchema, encode, plain]

theorem encoding_exact_tags :
    tagsListed.DistinctMembers ∧ ofJson tagsListed = .ok tagsSchema ∧ tagsSchema.DistinctKeys ∧
      ofJson tagsSchema.toJson = .ok tagsSchema ∧
      toJson <$> ofJson tagsListed = .ok tagsSchema.toJson ∧ tagsSchema.toJson ≠ tagsListed := by
  have text (content : String) : Json.DistinctMembers (.string content) :=
    .value .nil fun _ inside => nomatch inside
  have single (content : String) : Json.DistinctMembers (.array [.string content]) :=
    .value .nil fun _ inside => List.mem_singleton.mp inside ▸ text content
  have null : Json.DistinctMembers .null := .value .nil fun _ inside => nomatch inside
  have children : Json.DistinctMembers
      (.object [("since", .array [.string "date"]), ("open", .array [.string "boolean"])]) :=
    .value (by decide) (by simp [Json.parts, single])
  have distinctMembers : tagsListed.DistinctMembers :=
    .value .nil (by simp [tagsListed, Json.parts, text, single, null, children])
  have read : ofJson tagsListed = .ok tagsSchema := rfl
  obtain ⟨distinct, readBack⟩ := encoding_exact.2.1 tagsListed tagsSchema distinctMembers read
  exact ⟨distinctMembers, read, distinct, readBack,
    encoding_exact.2.2 tagsSchema tagsListed spelling_tagsListed, by decide⟩

end Schema

end Forms
