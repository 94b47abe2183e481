/-
This file proves when two fields without a label of their own get the same label key. Their paths have
the same keys, or one of them is the whole form and the other is a field with the name of a form.
-/

import Forms.Proofs.Compiler.Mirror

namespace Forms

namespace Path

/-- The names that a label key joins. The whole form has a name of its own. -/
def labelNames (path : Path) : List String :=
  match path.keyNames with
  | [] => ["form"]
  | names => names

/-- The path without its placeholders. -/
def withoutPlaceholders (path : Path) : Path := ⟨path.steps.filter (· != .item)⟩

variable {path left right : Path}

theorem labelName_eq (path : Path) : path.labelName = ".".intercalate path.labelNames := by
  rw [labelName, labelNames]
  cases path.keyNames with
  | nil => rfl
  | cons name names => rfl

/-- A joined text is taken apart at its points when the names have none. -/
theorem splitOn_intercalate {names : List String} (present : names ≠ [])
    (closed : ∀ name ∈ names, '.' ∉ name.toList) :
    (".".intercalate names).toList.splitOn '.' = names.map String.toList := by
  rw [String.toList_intercalate]
  apply List.splitOn_intercalate
  · intro chars member
    obtain ⟨name, listed, rfl⟩ := List.mem_map.mp member
    exact closed name listed
  · rwa [ne_eq, List.map_eq_nil_iff]

theorem labelNames_ne_nil (path : Path) : path.labelNames ≠ [] := by
  rw [labelNames]
  cases path.keyNames <;> simp

/-- No name of a declared path has a point. -/
theorem point_not_mem_labelNames (declared : ∀ step ∈ path.steps, step.IsDeclared) :
    ∀ name ∈ path.labelNames, '.' ∉ name.toList := by
  have closed : ∀ name ∈ path.keyNames, '.' ∉ name.toList := by
    intro name member point
    obtain ⟨step, listed, named⟩ := List.mem_filterMap.mp member
    cases step with
    | key other =>
        cases named
        have valid : isValidKey name = true := declared _ listed
        have delimited : name.toList.any isDelimiter = true :=
          List.any_eq_true.mpr ⟨'.', point, rfl⟩
        simp [isValidKey, delimited] at valid
    | _ => cases named
  rw [labelNames]
  split
  · simp
  · exact closed

/-- Declared paths with one label name join the same names. -/
theorem labelName_eq_iff (leftDeclared : ∀ step ∈ left.steps, step.IsDeclared)
    (rightDeclared : ∀ step ∈ right.steps, step.IsDeclared) :
    left.labelName = right.labelName ↔ left.labelNames = right.labelNames := by
  rw [labelName_eq, labelName_eq]
  constructor
  · intro same
    have apart := congrArg (fun text => text.toList.splitOn '.') same
    simp only [splitOn_intercalate left.labelNames_ne_nil (point_not_mem_labelNames leftDeclared),
      splitOn_intercalate right.labelNames_ne_nil (point_not_mem_labelNames rightDeclared)] at apart
    exact List.map_injective_iff.mpr (fun _ _ => String.toList_inj.mp) apart
  · exact congrArg _

/-- The whole form and a field named like it join the same names. -/
theorem labelNames_eq_iff :
    left.labelNames = right.labelNames ↔
      left.keyNames = right.keyNames ∨ (left.keyNames = [] ∧ right.keyNames = ["form"]) ∨
        (left.keyNames = ["form"] ∧ right.keyNames = []) := by
  rw [labelNames, labelNames]
  cases left.keyNames with
  | nil => cases right.keyNames <;> simp [eq_comm]
  | cons name names => cases right.keyNames <;> simp

/-- A declared path is its keys with placeholders between them. -/
theorem withoutPlaceholders_eq (declared : ∀ step ∈ path.steps, step.IsDeclared) :
    path.withoutPlaceholders = ⟨path.keyNames.map .key⟩ := by
  obtain ⟨steps⟩ := path
  have keysOnly : steps.filter (· != .item) = (keyNames ⟨steps⟩).map .key := by
    induction steps with
    | nil => rfl
    | cons step steps inductionHypothesis =>
        obtain ⟨first, later⟩ := List.forall_mem_cons.mp declared
        have below := inductionHypothesis later
        cases step with
        | key name => simpa [keyNames] using below
        | index position => exact first.elim
        | item => simpa [keyNames] using below
  exact congrArg Path.mk keysOnly

theorem keyNames_eq_iff (leftDeclared : ∀ step ∈ left.steps, step.IsDeclared)
    (rightDeclared : ∀ step ∈ right.steps, step.IsDeclared) :
    left.keyNames = right.keyNames ↔ left.withoutPlaceholders = right.withoutPlaceholders := by
  have keyInjective : Function.Injective Step.key := fun _ _ same => Step.key.inj same
  rw [withoutPlaceholders_eq leftDeclared, withoutPlaceholders_eq rightDeclared, Path.mk.injEq,
    (List.map_injective_iff.mpr keyInjective).eq_iff]

end Path

namespace View

/-- The view shows a field of the schema that declares no label. -/
def IsUnlabelled (options : RenderOptions) (schema : Schema) (view : View) : Prop :=
  ∃ field : Schema, field.Within schema ∧ field.label = none ∧
    Mirrors options view.path view.key field view

variable {options : RenderOptions} {schema : Schema} {view : View}

theorem IsUnlabelled.labelKey (unlabelled : view.IsUnlabelled options schema) :
    view.labelKey = options.labelPrefix ++ view.path.labelName := by
  obtain ⟨field, _, none, ⟨shows, _, _, _, _⟩⟩ := unlabelled
  rw [shows.labelKey, none, Option.getD_none]

end View

namespace Compiler

variable {compiler : Compiler} {schema : Schema} {compiled : Compiled}

/-- Two fields without a label share their label key exactly when their paths have the same keys, so that
the paths differ in placeholders at most. There is one exception: the label key of the whole form, and of
its elements when it is an array, is also the label key of a field named form. -/
theorem labelKey_eq_iff (compiles : (compiler.compile schema).result = .ok compiled) {left right : View}
    (leftMember : left ∈ compiled.view.nodes) (rightMember : right ∈ compiled.view.nodes)
    (leftUnlabelled : left.IsUnlabelled compiler.options schema)
    (rightUnlabelled : right.IsUnlabelled compiler.options schema) :
    (left.labelKey = right.labelKey ↔
        left.path.keyNames = right.path.keyNames ∨
          (left.path.keyNames = [] ∧ right.path.keyNames = ["form"]) ∨
          (left.path.keyNames = ["form"] ∧ right.path.keyNames = [])) ∧
      (left.path.keyNames = right.path.keyNames ↔
        left.path.withoutPlaceholders = right.path.withoutPlaceholders) := by
  obtain ⟨sameView, valid, _⟩ := compileAt_ok compiles
  have declared {node : View} (member : node ∈ compiled.view.nodes) :
      ∀ step ∈ node.path.steps, step.IsDeclared := by
    rw [sameView] at member
    obtain ⟨steps, path, below⟩ := View.declared_of_mem_nodes valid member
    rw [path]
    exact below
  have sameName : left.labelKey = right.labelKey ↔ left.path.labelName = right.path.labelName := by
    rw [leftUnlabelled.labelKey, rightUnlabelled.labelKey, String.append_right_inj]
  constructor
  · rw [sameName, Path.labelName_eq_iff (declared leftMember) (declared rightMember)]
    exact Path.labelNames_eq_iff
  · exact Path.keyNames_eq_iff (declared leftMember) (declared rightMember)

end Compiler

/-- The phones of a contact. Neither the list nor its items declare a label. -/
def contactPhones : View :=
  .ofSchema .standard ⟨[.item, .key "phones"]⟩ (some "phones") (.arrayOf requiredText)

def contactPhone : View := .ofSchema .standard ⟨[.item, .key "phones", .item]⟩ none requiredText

/-- The list of phones and a phone have one label key, because only a placeholder tells their paths
apart. -/
theorem labelKey_contacts_phones :
    (contactsCompiler.compile contacts).result = .ok contactsForm ∧
      contactPhones ∈ contactsForm.view.nodes ∧ contactPhone ∈ contactsForm.view.nodes ∧
      contactPhones.IsUnlabelled .standard contacts ∧ contactPhone.IsUnlabelled .standard contacts ∧
      contactPhones.labelKey = contactPhone.labelKey := by
  have listInside : (Schema.arrayOf requiredText).Within contacts :=
    .item rfl (.child (List.mem_cons_of_mem _ List.mem_cons_self) .self)
  have list : contactPhones.IsUnlabelled .standard contacts :=
    ⟨_, listInside, rfl, View.mirrors_ofSchema _ _ _ _⟩
  have phone : contactPhone.IsUnlabelled .standard contacts :=
    ⟨_, .trans (.item rfl .self) listInside, rfl, View.mirrors_ofSchema _ _ _ _⟩
  have listAt : contactsForm.view.nodes[4]? = some contactPhones := rfl
  have phoneAt : contactsForm.view.nodes[5]? = some contactPhone := rfl
  have listMember := List.mem_of_getElem? listAt
  have phoneMember := List.mem_of_getElem? phoneAt
  exact ⟨contacts_compile, listMember, phoneMember, list, phone,
    (Compiler.labelKey_eq_iff contacts_compile listMember phoneMember list phone).1.mpr (.inl rfl)⟩

/-- An object with one field, which is named form. -/
def formInForm : Schema := { kind := .object, children := [("form", { kind := .string })] }

def formInFormView : View := .ofSchema .standard .root none formInForm

def innerFormView : View := .ofSchema .standard ⟨[.key "form"]⟩ (some "form") { kind := .string }

/-- The whole form and its field have one label key, although only the field has a key in its path. -/
theorem labelKey_formInForm :
    ((contactsCompiler.compile formInForm).result.toOption).map Compiled.view = some formInFormView ∧
      formInFormView ∈ formInFormView.nodes ∧ innerFormView ∈ formInFormView.nodes ∧
      formInFormView.IsUnlabelled .standard formInForm ∧
      innerFormView.IsUnlabelled .standard formInForm ∧
      ¬ (formInFormView.labelKey = innerFormView.labelKey ↔
        formInFormView.path.keyNames = innerFormView.path.keyNames) := by
  refine ⟨rfl, List.mem_cons_self, List.mem_cons_of_mem _ List.mem_cons_self, ?_, ?_, by decide⟩
  · exact ⟨formInForm, .self, rfl, View.mirrors_ofSchema _ _ _ _⟩
  · exact ⟨_, .child List.mem_cons_self .self, rfl, View.mirrors_ofSchema _ _ _ _⟩

end Forms
