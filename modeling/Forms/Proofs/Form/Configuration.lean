/-
This file proves how the options of a form configure it. Each part of the options is put over the defaults
of its own concern, and the first part that is not acceptable is reported.
-/

import Forms.Form
import Forms.Proofs.Json.Members
import Forms.Proofs.Options.Fields

namespace Forms

namespace Catalog

/-- Templates can be overridden with null or with an object of texts. -/
def AcceptsOverrides (overrides : Json) : Prop :=
  overrides = .null ∨ ∃ members, overrides = .object members ∧
    ∀ member ∈ members, ∃ text, member.2 = .string text

theorem exists_readTemplates_iff {members : List (String × Json)} :
    (∃ templates, readTemplates members = .ok templates) ↔
      ∀ member ∈ members, ∃ text, member.2 = .string text := by
  induction members with
  | nil => simp [readTemplates]
  | cons member members inductionHypothesis =>
      obtain ⟨key, value⟩ := member
      rw [List.forall_mem_cons, ← inductionHypothesis]
      cases value with
      | string text =>
          simp only [readTemplates, bind_eq_ok_iff, Json.string.injEq, exists_eq', true_and]
          constructor
          · rintro ⟨_, templates, read, -⟩
            exact ⟨templates, read⟩
          · rintro ⟨templates, read⟩
            exact ⟨_, templates, read, rfl⟩
      | _ => simp [readTemplates]

theorem exists_withOverrides_iff {catalog : Catalog} {overrides : Json} :
    (∃ changed, catalog.withOverrides overrides = .ok changed) ↔ AcceptsOverrides overrides := by
  cases overrides with
  | object members =>
      simp only [AcceptsOverrides, withOverrides, reduceCtorEq, Json.object.injEq, false_or,
        exists_eq_left', ← exists_readTemplates_iff]
      cases readTemplates members <;> simp
  | _ => simp [withOverrides, AcceptsOverrides]

/-- The templates of an object that repeats no key are found by their keys. -/
theorem lookup_reverse_readTemplates {members : List (String × Json)} {templates : List (String × String)}
    (read : readTemplates members = .ok templates) (distinct : (members.map Prod.fst).Nodup)
    (key : String) :
    templates.reverse.lookup key = (Json.findMember key members).bind Json.string? := by
  induction members generalizing templates with
  | nil =>
      cases read
      rfl
  | cons member members inductionHypothesis =>
      obtain ⟨name, value⟩ := member
      cases value with
      | string text =>
          obtain ⟨later, readLater, same⟩ := bind_eq_ok_iff.mp read
          cases same
          obtain ⟨fresh, distinctLater⟩ := List.nodup_cons.mp distinct
          rw [List.reverse_cons, List.lookup_append, inductionHypothesis readLater distinctLater,
            Json.findMember]
          by_cases same : name = key
          · subst same
            rw [Json.findMember_of_not_mem fresh, if_pos rfl]
            simp [Json.string?]
          · rw [if_neg same, List.lookup_cons, beq_false_of_ne (Ne.symm same), List.lookup_nil,
              Option.or_none]
      | _ => cases read

/-- The catalog answers with the template that the overrides have for a key, and with its own template for
the other keys. -/
theorem get?_withOverrides {catalog changed : Catalog} {overrides : Json}
    (changes : catalog.withOverrides overrides = .ok changed) (distinct : overrides.keys.Nodup)
    (key : String) :
    changed.get? key = ((overrides.member? key).bind Json.string?).or (catalog.get? key) := by
  cases overrides with
  | null =>
      cases changes
      rfl
  | object members =>
      rw [withOverrides] at changes
      split at changes <;> cases changes
      next templates read =>
        rw [get?, OrderedMap.get?_insertAll, lookup_reverse_readTemplates read distinct]
        rfl
  | _ => cases changes

/-- A fault of the templates names them. -/
theorem target_of_withOverrides {catalog : Catalog} {overrides : Json} {error : OverrideError}
    (refused : catalog.withOverrides overrides = .error error) : error.target = .messages := by
  cases overrides with
  | null => cases refused
  | object members =>
      rw [withOverrides] at refused
      split at refused <;> cases refused
      rfl
  | _ =>
      cases refused
      rfl

end Catalog

namespace Form

variable {options : Json} {extensions : List (String × Maker)} {form : Form}

def AcceptsMessages (options : Json) : Prop := Catalog.AcceptsOverrides (part options "messages")

def AcceptsRendering (options : Json) : Prop :=
  OptionGroup.Acceptable RenderOptions.fields (part options "render")

def AcceptsValidation (options : Json) : Prop :=
  OptionGroup.Acceptable ValidationOptions.fields (part options "validation")

/-- The section is the first one that is not acceptable. -/
def FirstRefused (options : Json) : Section → Prop
  | .messages => ¬ AcceptsMessages options
  | .render => AcceptsMessages options ∧ ¬ AcceptsRendering options
  | .validation => AcceptsMessages options ∧ AcceptsRendering options ∧ ¬ AcceptsValidation options
  | .widgets | .raw => False

/-- A form is configured when each part of the options is acceptable, and the first part that is not is
the one that a fault names. Each concern of the form is what its own part makes of the defaults, so it
depends on no other part. A template of the part for the messages takes the place of the template that
the library has for its key. -/
structure ConfiguredByPart (options : Json) (extensions : List (String × Maker)) : Prop where
  succeeds : (∃ form, configure options extensions = .ok form) ↔
    AcceptsMessages options ∧ AcceptsRendering options ∧ AcceptsValidation options
  reports : ∀ error, configure options extensions = .error error →
    ∃ cause, error = .configuration cause ∧ FirstRefused options cause.target
  made : ∀ form, configure options extensions = .ok form ↔
    Catalog.standard.withOverrides (part options "messages") = .ok form.catalog ∧
      RenderOptions.group.merge .standard (part options "render") = .ok form.rendering ∧
      ValidationOptions.group.merge .standard (part options "validation") = .ok form.validation ∧
      form.registry = Registry.standard.withExtensions extensions ∧ form.engine = none
  templates : ∀ form, configure options extensions = .ok form →
    (part options "messages").keys.Nodup → ∀ key, form.catalog.get? key =
      (((part options "messages").member? key).bind Json.string?).or (Catalog.standard.get? key)
  independent : ∀ form, configure options extensions = .ok form →
    ∀ other otherExtensions otherForm, configure other otherExtensions = .ok otherForm →
      (part options "messages" = part other "messages" → form.catalog = otherForm.catalog) ∧
      (part options "render" = part other "render" → form.rendering = otherForm.rendering) ∧
      (part options "validation" = part other "validation" → form.validation = otherForm.validation)

section Results

variable {Value : Type} {result : Except OverrideError Value}

theorem configured_eq_ok_iff {value : Value} : configured result = .ok value ↔ result = .ok value := by
  cases result <;> simp [configured]

theorem configured_eq_error_iff {error : FormError} :
    configured result = .error error ↔ ∃ cause, result = .error cause ∧ error = .configuration cause := by
  cases result <;> simp [configured, eq_comm]

end Results

/-- A configured form has what each part makes of the defaults. -/
theorem configure_eq_ok_iff :
    configure options extensions = .ok form ↔
      Catalog.standard.withOverrides (part options "messages") = .ok form.catalog ∧
        RenderOptions.group.merge .standard (part options "render") = .ok form.rendering ∧
        ValidationOptions.group.merge .standard (part options "validation") = .ok form.validation ∧
        form.registry = Registry.standard.withExtensions extensions ∧ form.engine = none := by
  simp only [configure, bind_eq_ok_iff, configured_eq_ok_iff]
  constructor
  · rintro ⟨catalog, readCatalog, rendering, readRendering, validation, readValidation, same⟩
    cases same
    exact ⟨readCatalog, readRendering, readValidation, rfl, rfl⟩
  · obtain ⟨registry, catalog, rendering, validation, engine⟩ := form
    rintro ⟨readCatalog, readRendering, readValidation, rfl, rfl⟩
    exact ⟨catalog, readCatalog, rendering, readRendering, validation, readValidation, rfl⟩

theorem acceptsMessages_iff : AcceptsMessages options ↔
    ∃ catalog, Catalog.standard.withOverrides (part options "messages") = .ok catalog :=
  Catalog.exists_withOverrides_iff.symm

theorem acceptsRendering_iff : AcceptsRendering options ↔
    ∃ rendering, RenderOptions.group.merge .standard (part options "render") = .ok rendering :=
  RenderOptions.consistsOf.exists_merge_iff.symm

theorem acceptsValidation_iff : AcceptsValidation options ↔
    ∃ validation, ValidationOptions.group.merge .standard (part options "validation") = .ok validation :=
  ValidationOptions.consistsOf.exists_merge_iff.symm

theorem exists_configure_iff :
    (∃ form, configure options extensions = .ok form) ↔
      AcceptsMessages options ∧ AcceptsRendering options ∧ AcceptsValidation options := by
  rw [acceptsMessages_iff, acceptsRendering_iff, acceptsValidation_iff]
  constructor
  · rintro ⟨form, made⟩
    obtain ⟨readCatalog, readRendering, readValidation, _⟩ := configure_eq_ok_iff.mp made
    exact ⟨⟨_, readCatalog⟩, ⟨_, readRendering⟩, _, readValidation⟩
  · rintro ⟨⟨catalog, readCatalog⟩, ⟨rendering, readRendering⟩, validation, readValidation⟩
    exact ⟨⟨Registry.standard.withExtensions extensions, catalog, rendering, validation, none⟩,
      configure_eq_ok_iff.mpr ⟨readCatalog, readRendering, readValidation, rfl, rfl⟩⟩

/-- The parts are read in order, so the first fault is the one that is reported. -/
theorem firstRefused_of_configure {error : FormError}
    (refused : configure options extensions = .error error) :
    ∃ cause, error = .configuration cause ∧ FirstRefused options cause.target := by
  simp only [configure, bind_eq_error_iff, configured_eq_ok_iff, configured_eq_error_iff] at refused
  rcases refused with ⟨cause, failed, rfl⟩ | ⟨catalog, readCatalog, onward⟩
  · refine ⟨cause, rfl, ?_⟩
    rw [Catalog.target_of_withOverrides failed]
    exact mt acceptsMessages_iff.mp (exists_error_iff.mp ⟨cause, failed⟩)
  have messages := acceptsMessages_iff.mpr ⟨catalog, readCatalog⟩
  rcases onward with ⟨cause, failed, rfl⟩ | ⟨rendering, readRendering, onward⟩
  · refine ⟨cause, rfl, ?_⟩
    rw [OptionGroup.target_of_merge failed]
    exact ⟨messages, mt acceptsRendering_iff.mp (exists_error_iff.mp ⟨cause, failed⟩)⟩
  have render := acceptsRendering_iff.mpr ⟨rendering, readRendering⟩
  rcases onward with ⟨cause, failed, rfl⟩ | ⟨validation, readValidation, made⟩
  · refine ⟨cause, rfl, ?_⟩
    rw [OptionGroup.target_of_merge failed]
    exact ⟨messages, render, mt acceptsValidation_iff.mp (exists_error_iff.mp ⟨cause, failed⟩)⟩
  · cases made

theorem configuredByPart (options : Json) (extensions : List (String × Maker)) :
    ConfiguredByPart options extensions where
  succeeds := exists_configure_iff
  reports _ := firstRefused_of_configure
  made _ := configure_eq_ok_iff
  templates _ made distinct := Catalog.get?_withOverrides (configure_eq_ok_iff.mp made).1 distinct
  independent form made other otherExtensions otherForm otherMade := by
    obtain ⟨catalog, rendering, validation, _⟩ := configure_eq_ok_iff.mp made
    obtain ⟨otherCatalog, otherRendering, otherValidation, _⟩ := configure_eq_ok_iff.mp otherMade
    refine ⟨fun same => ?_, fun same => ?_, fun same => ?_⟩
    · rw [same, otherCatalog] at catalog
      exact (Except.ok.inj catalog).symm
    · rw [same, otherRendering] at rendering
      exact (Except.ok.inj rendering).symm
    · rw [same, otherValidation] at validation
      exact (Except.ok.inj validation).symm

end Form

/-- Overrides act field by field on every group of options, and part by part on the options of a form. -/
theorem overrides_by_field :
    RenderOptions.group.OverriddenByField RenderOptions.fields ∧
      ValidationOptions.group.OverriddenByField ValidationOptions.fields ∧
      Widgets.group.OverriddenByField Widgets.fields ∧
      ∀ options extensions, Form.ConfiguredByPart options extensions :=
  ⟨RenderOptions.consistsOf.overriddenByField, ValidationOptions.consistsOf.overriddenByField,
    Widgets.consistsOf.overriddenByField, Form.configuredByPart⟩

/-- Widgets in their array form, and a member that is the name of no field. -/
def surveyRendering : Json :=
  .object [("widgets", .array (Kind.names.map .string)), ("theme", .null)]

def surveyOptions : RenderOptions :=
  ⟨"label_", ⟨"string", "integer", "decimal", "boolean", "date", "object", "array"⟩⟩

def signUpRendering : Json := .object [("label_prefix", .string "signup_")]

def signUpOptions : Json := .object [
  ("messages", .object [("error_value_required", .string "Please fill in this field")]),
  ("render", signUpRendering)]

/-- The later label prefix is put over the widgets. A form has the templates and the label prefix of its
options, and a form whose messages and rendering are both refused reports the messages. -/
theorem overrides_signUp :
    RenderOptions.group.merge .standard surveyRendering = .ok surveyOptions ∧
      RenderOptions.group.merge .standard (surveyRendering.overlaid signUpRendering) =
        .ok { surveyOptions with labelPrefix := "signup_" } ∧
      (∃ form, Form.configure signUpOptions [] = .ok form ∧
        form.rendering = { RenderOptions.standard with labelPrefix := "signup_" } ∧
        form.catalog.get? "error_value_required" = some "Please fill in this field") ∧
      Form.FirstRefused (.object [("messages", .bool true), ("render", .bool true)]) .messages := by
  have survey : RenderOptions.group.merge .standard surveyRendering = .ok surveyOptions := rfl
  have signUp : RenderOptions.group.merge surveyOptions signUpRendering =
      .ok { surveyOptions with labelPrefix := "signup_" } := rfl
  have signUpAlone : RenderOptions.group.merge .standard signUpRendering =
      .ok { RenderOptions.standard with labelPrefix := "signup_" } := rfl
  obtain ⟨rendering, -, -, configured⟩ := overrides_by_field
  obtain ⟨form, made⟩ : ∃ form, Form.configure signUpOptions [] = .ok form := ⟨_, rfl⟩
  obtain ⟨_, read, _⟩ := ((configured signUpOptions []).made form).mp made
  have template := (configured signUpOptions []).templates form made (by decide) "error_value_required"
  obtain ⟨_, same, refused⟩ :=
    (configured (.object [("messages", .bool true), ("render", .bool true)]) []).reports _ rfl
  cases same
  exact ⟨survey, (rendering.follows _ _ _ survey _ _).mp signUp,
    ⟨form, made, Except.ok.inj (read.symm.trans signUpAlone), template⟩, refused⟩

end Forms
