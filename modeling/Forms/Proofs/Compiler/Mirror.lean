/-
This file proves that the view of a compiled form mirrors its schema. A relation says field by field what
a view has to show, and the view of a compiled form is the only one that it admits.
-/

import Forms.Proofs.Compiler.Resolution
import Forms.Proofs.Path.Prefixes

namespace Forms

/-- The names of the keys along a path, with points between them. A path without keys stands for the whole
form. -/
def Path.labelName (path : Path) : String :=
  match path.keyNames with
  | [] => "form"
  | names => ".".intercalate names

namespace View

/-- What a view shows of the topmost field of a schema. Labels and widgets that the field does not declare
come from its path and its kind. -/
structure Shows (options : RenderOptions) (base : Path) (key : Option String) (schema : Schema)
    (view : View) : Prop where
  path : view.path = base
  key : view.key = key
  kind : view.kind = schema.kind
  hint : view.hint = schema.hint
  checks : view.checks = schema.checks
  itemSchema : view.itemSchema = schema.items
  widget : view.widget = schema.widget.getD (options.widgets.forKind schema.kind)
  labelKey : view.labelKey = schema.label.getD (options.labelPrefix ++ base.labelName)

/-- A view mirrors a schema when it shows every field of it. The children have the order of the schema,
and their paths go on with their keys. There is an item when the schema has items, and its path goes on
with a placeholder. -/
inductive Mirrors (options : RenderOptions) : Path → Option String → Schema → View → Prop where
  | field {base : Path} {key : Option String} {schema : Schema} {view : View}
      (shows : view.Shows options base key schema)
      (childCount : view.children.length = schema.children.length)
      (children : ∀ pair ∈ schema.children.zip view.children,
        Mirrors options (base.key pair.1.1) (some pair.1.1) pair.1.2 pair.2)
      (itemCount : view.item.isSome = schema.items.isSome)
      (items : ∀ inner ∈ schema.items, ∀ item ∈ view.item,
        Mirrors options base.item none inner item) :
      Mirrors options base key schema view

variable {options : RenderOptions} {base : Path} {key : Option String}

theorem shows_ofSchema (options : RenderOptions) (base : Path) (key : Option String)
    (schema : Schema) : (ofSchema options base key schema).Shows options base key schema := by
  have labelKey : labelKeyFor options base = options.labelPrefix ++ base.labelName := by
    rw [labelKeyFor, Path.labelName]
    cases base.keyNames <;> rfl
  obtain ⟨kind, label, widget, hint, checks, children, items⟩ := schema
  exact ⟨rfl, rfl, rfl, rfl, rfl, rfl, rfl, by rw [← labelKey]; rfl⟩

/-- A view is determined by its topmost field with its children and its item. -/
theorem eq_of_shows {schema : Schema} {left right : View} (leftShows : left.Shows options base key schema)
    (rightShows : right.Shows options base key schema) (sameChildren : left.children = right.children)
    (sameItem : left.item = right.item) : left = right := by
  obtain ⟨path, name, kind, hint, checks, itemSchema, widget, labelKey⟩ := leftShows
  obtain ⟨path', name', kind', hint', checks', itemSchema', widget', labelKey'⟩ := rightShows
  cases left
  cases right
  simp only [mk.injEq]
  exact ⟨path.trans path'.symm, name.trans name'.symm, kind.trans kind'.symm,
    labelKey.trans labelKey'.symm, widget.trans widget'.symm, hint.trans hint'.symm,
    checks.trans checks'.symm, sameChildren, sameItem, itemSchema.trans itemSchema'.symm⟩

theorem mirrors_ofSchema (options : RenderOptions) (base : Path) (key : Option String)
    (schema : Schema) : Mirrors options base key schema (ofSchema options base key schema) := by
  induction schema using Schema.fieldInduction generalizing base key with
  | field schema childHypothesis itemHypothesis =>
      refine .field (shows_ofSchema options base key schema) ?_ ?_ ?_ ?_
      · rw [ofSchema_children, List.length_map]
      · have shown : List.Forall₂ (fun child view =>
            Mirrors options (base.key child.1) (some child.1) child.2 view) schema.children
              (schema.children.map (childView options base)) :=
          List.forall₂_map_right_iff.mpr (List.forall₂_same.mpr fun child member =>
            childHypothesis child member (base.key child.1) (some child.1))
        rw [ofSchema_children]
        exact fun pair listed => (List.forall₂_iff_zip.mp shown).2 listed
      · rw [ofSchema_item, Option.isSome_map]
      · intro inner held item shown
        rw [ofSchema_item, held] at shown
        cases shown
        exact itemHypothesis inner held base.item none

theorem Mirrors.eq_ofSchema {schema : Schema} {view : View}
    (mirrors : Mirrors options base key schema view) : view = ofSchema options base key schema := by
  induction mirrors with
  | @field base key schema view shows childCount _ itemCount _ childHypothesis itemHypothesis =>
      apply eq_of_shows shows (shows_ofSchema options base key schema)
      · have same : List.Forall₂ (childView options base · = ·) schema.children view.children :=
          List.forall₂_iff_zip.mpr ⟨childCount.symm, fun listed => (childHypothesis _ listed).symm⟩
        rw [← List.forall₂_map_left_iff, List.forall₂_eq_eq_eq] at same
        rw [ofSchema_children, same]
      · rw [ofSchema_item]
        cases held : schema.items with
        | none => simpa [held] using itemCount
        | some inner =>
            rw [held, Option.isSome_some, Option.isSome_iff_exists] at itemCount
            obtain ⟨item, shown⟩ := itemCount
            rw [shown, Option.map_some, itemHypothesis inner held item shown]

end View

namespace Compiler

variable {compiler : Compiler} {base : Path} {schema : Schema} {compiled : Compiled}

/-- The view of a compiled form or element mirrors its schema from the place where it starts, and no other
view does. Below this place the paths have valid keys and placeholders only. -/
theorem view_mirrors (compiles : (compiler.compileAt base schema).result = .ok compiled) :
    View.Mirrors compiler.options base none schema compiled.view ∧
      (∀ view, View.Mirrors compiler.options base none schema view → view = compiled.view) ∧
      ∀ node ∈ compiled.view.nodes, ∃ steps, node.path = base.extend steps ∧
        ∀ step ∈ steps, step.IsDeclared := by
  obtain ⟨sameView, valid, _⟩ := compileAt_ok compiles
  rw [sameView]
  refine ⟨View.mirrors_ofSchema _ _ _ _, fun _ mirrors => mirrors.eq_ofSchema, fun node member => ?_⟩
  obtain ⟨steps, path, below⟩ := View.declared_of_mem_nodes valid member
  exact ⟨steps, congrArg Path.mk path, below⟩

end Compiler

/-- A page of a survey. Its answers have no label of their own, and every answer is a switch. -/
def surveyPage : Schema where
  kind := .object
  label := some "page_title"
  children := [("answers", .arrayOf {
    kind := .boolean, widget := some "switch", hint := some "hint_answer", checks := [.bare "required"] })]

def surveyForm : Compiled :=
  ((contactsCompiler.compileItem ⟨[.key "pages"]⟩ 2 surveyPage).result.toOption).get (by decide)

/-- The page at position two mirrors its schema. The label of its answers leaves the position out, and an
answer has a path with a placeholder. -/
theorem view_mirrors_survey :
    (contactsCompiler.compileItem ⟨[.key "pages"]⟩ 2 surveyPage).result = .ok surveyForm ∧
      View.Mirrors .standard ⟨[.key "pages", .index 2]⟩ none surveyPage surveyForm.view ∧
      surveyForm.view.labelKey = "page_title" ∧
      surveyForm.view.children.map View.labelKey = ["label_pages.answers"] ∧
      surveyForm.view.nodes.map View.widget = ["fieldset", "list", "switch"] ∧
      ⟨[.key "pages", .index 2, .key "answers", .item]⟩ ∈ surveyForm.view.nodes.map View.path := by
  have compiles : (contactsCompiler.compileAt ⟨[.key "pages", .index 2]⟩ surveyPage).result =
      .ok surveyForm := rfl
  exact ⟨compiles, (Compiler.view_mirrors compiles).1, by decide, by decide, by decide, by decide⟩

end Forms
