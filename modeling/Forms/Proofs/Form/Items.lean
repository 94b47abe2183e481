/-
This file proves what adding an item to a rendered form gives. It fails for paths that lead to no array
of the form and for no other reason, and otherwise the element is the item of the array, moved to its
place, with the rules of the form.
-/

import Forms.Form
import Forms.Proofs.Compiler.Elements
import Forms.Proofs.Engine.Changes

namespace Forms

namespace Form

/-- A form is rendered with a schema after a document with the schema was rendered, whatever the engine
has done since then. -/
inductive IsRendered (schema : Schema) : Form → Prop where
  | render {earlier next : Form} {document : Document} {source : Source} {shown : Bool}
      (same : document.form = schema)
      (rendered : earlier.render document source = (.ok shown, next)) : IsRendered schema next
  | perform {form : Form} {engine : Engine} (operation : Operation) (rendered : IsRendered schema form)
      (held : form.engine = some engine) :
      IsRendered schema { form with engine := some (engine.perform operation).2 }

/-- The engine of a form works with a compiled form and with the options of the form. -/
structure Runs (form : Form) (compiled : Compiled) (engine : Engine) : Prop where
  held : form.engine = some engine
  rules : engine.rules = compiled.rules
  view : engine.view = compiled.view
  catalog : engine.catalog = form.catalog
  options : engine.options = form.validation

variable {form : Form} {schema : Schema}

theorem Runs.perform {compiled : Compiled} {engine : Engine} (runs : form.Runs compiled engine)
    (operation : Operation) :
    Runs { form with engine := some (engine.perform operation).2 } compiled
      (engine.perform operation).2 := by
  obtain ⟨_, rules, view, catalog, options⟩ := runs
  cases operation <;> exact ⟨rfl, rules, view, catalog, options⟩

/-- A rendered form runs what its schema compiles to. -/
theorem IsRendered.exists_runs (rendered : form.IsRendered schema) :
    ∃ compiled engine, (form.compiler.compile schema).result = .ok compiled ∧
      form.Runs compiled engine := by
  induction rendered with
  | @render earlier next document source shown same rendered =>
      subst same
      unfold Form.render at rendered
      split at rendered
      · cases rendered
      · next compiled compiles =>
          cases rendered
          exact ⟨compiled, _, compiles, rfl, rfl, rfl, rfl, rfl⟩
  | @perform form engine operation _ held inductionHypothesis =>
      obtain ⟨compiled, running, compiles, runs⟩ := inductionHypothesis
      obtain rfl : running = engine := Option.some.inj (runs.held.symm.trans held)
      exact ⟨compiled, _, compiles, runs.perform operation⟩

section Adding

variable {compiled : Compiled} {engine : Engine} {array : Path} {position : Nat}

theorem addItem_of_isTemplate (runs : form.Runs compiled engine) (template : array.isTemplate = true) :
    form.addItem array position = .error (.path ⟨array.text, .templateArray⟩) := by
  simp [addItem, itemSchema, Form.rendered, runs.held, template, bind, Except.bind]

theorem addItem_of_find?_eq_none (runs : form.Runs compiled engine)
    (concrete : array.isTemplate = false) (unknown : engine.view.find? array = none) :
    form.addItem array position = .error (.path ⟨array.text, .noSuchField⟩) := by
  simp [addItem, itemSchema, Form.rendered, runs.held, concrete, unknown, bind, Except.bind]

theorem addItem_of_itemSchema_eq_none (runs : form.Runs compiled engine)
    (concrete : array.isTemplate = false) {node : View} (found : engine.view.find? array = some node)
    (none : node.itemSchema = none) :
    form.addItem array position = .error (.notArray array) := by
  simp [addItem, itemSchema, Form.rendered, runs.held, concrete, found, none, bind, Except.bind]

/-- The items of an array compile, because the form has compiled. -/
theorem exists_element (position : Nat) (runs : form.Runs compiled engine)
    (compiles : (form.compiler.compile schema).result = .ok compiled)
    (concrete : array.isTemplate = false) {node : View} (found : engine.view.find? array = some node)
    {inner : Schema} (declares : node.itemSchema = some inner) :
    ∃ element : form.compiler.Element schema, element.form = compiled ∧ element.array = array ∧
      element.position = position ∧ element.node = node ∧
        form.addItem array position = .ok element.fragment := by
  rw [runs.view] at found
  have accepts : form.compiler.Accepts inner :=
    .of_within (Compiler.within_of_find? compiles found declares)
      ((Compiler.exists_compileAt_iff .root).mp ⟨compiled, compiles⟩)
  obtain ⟨fragment, compilesItem⟩ :=
    (Compiler.exists_compileAt_iff (array.index position)).mpr accepts
  refine ⟨⟨compiled, array, position, node, inner, fragment, compiles, found, declares, compilesItem⟩,
    rfl, rfl, rfl, rfl, ?_⟩
  rw [← runs.view] at found
  simp [addItem, itemSchema, Form.rendered, runs.held, concrete, found, declares, bind, Except.bind,
    Compiler.compileItem, compilesItem]

end Adding

/-- A rendered form adds an item to every array that it has, and to nothing else. The item is the one
that the field of the array shows, moved to the place of the new element, and nothing else about it
changes. When no two siblings share a key, its rulebook has exactly one entry for every field that it
shows, and the form resolves the path of the entry to an entry with the same declarations. -/
theorem addItem_exact (rendered : form.IsRendered schema) (array : Path) (position : Nat) :
    ∃ engine, form.engine = some engine ∧
      ((∃ error, form.addItem array position = .error (.path error)) ↔
        array.isTemplate = true ∨ engine.view.find? array = none) ∧
      ((∃ path, form.addItem array position = .error (.notArray path)) ↔
        array.isTemplate = false ∧ ∃ node, engine.view.find? array = some node ∧ node.item = none) ∧
      (∀ error, form.addItem array position ≠ .error (.compile error)) ∧
      ∀ node item, array.isTemplate = false → engine.view.find? array = some node →
        node.item = some item →
          ∃ fragment, form.addItem array position = .ok fragment ∧
            (∀ inside ∈ item.nodes, inside.path.startsWith node.path.item = true) ∧
            fragment.view = item.mapPaths (Path.rebase node.path.item (array.index position)) ∧
            (schema.DistinctKeys →
              (fragment.rules.toList.map Rulebook.declared).Perm
                  (fragment.view.nodes.map View.declared) ∧
                ∀ entry ∈ fragment.rules.toList, ∃ governing,
                  engine.rules.resolve? entry.1 = some governing ∧
                    governing.2.map Rule.declaration = entry.2.map Rule.declaration) := by
  obtain ⟨compiled, engine, compiles, runs⟩ := rendered.exists_runs
  refine ⟨engine, runs.held, ?_⟩
  cases concrete : array.isTemplate with
  | true =>
      have failed : form.addItem array position = _ := addItem_of_isTemplate runs concrete
      simp [failed]
  | false =>
      cases found : engine.view.find? array with
      | none =>
          have failed : form.addItem array position = _ :=
            addItem_of_find?_eq_none runs concrete found
          simp [failed]
      | some node =>
          cases declares : node.itemSchema with
          | none =>
              have failed : form.addItem array position = _ :=
                addItem_of_itemSchema_eq_none runs concrete found declares
              have noItem : node.item = none := by
                rw [Compiler.item_of_find? compiles (runs.view ▸ found), declares]
                rfl
              refine ⟨by simp [failed], by simp [failed, noItem], by simp [failed], ?_⟩
              rintro _ item _ ⟨⟩ held
              rw [noItem] at held
              cases held
          | some inner =>
              obtain ⟨element, rfl, rfl, rfl, rfl, added⟩ :=
                exists_element position runs compiles concrete found declares
              have shown : element.node.item = some element.item := element.node_item
              refine ⟨by simp [added], by simp [added, shown], by simp [added], ?_⟩
              rintro _ item _ ⟨⟩ held
              obtain rfl : element.item = item := Option.some.inj (shown.symm.trans held)
              have place : element.node.path.item = element.template :=
                congrArg Path.item element.node_path
              refine ⟨element.fragment, added, fun inside member => ?_, ?_, fun distinct => ⟨?_, ?_⟩⟩
              · obtain ⟨steps, path, _⟩ := element.exists_steps member
                rw [place, path]
                exact Path.startsWith_extend _ steps
              · rw [place]
                exact element.view_eq
              · exact Compiler.perm_declared (element.itemSchema_within.distinctKeys distinct)
                  element.compilesItem
              · intro entry member
                exact ⟨(entry.1.generalize, entry.2),
                  runs.rules ▸ element.resolve?_of_mem distinct member, rfl⟩

end Form

/-- The form of the contacts before it is rendered. -/
def contactsSetup : Form where
  registry := contactsCompiler.registry
  catalog := contactsCompiler.catalog
  rendering := contactsCompiler.options

/-- The form of the contacts after it is rendered without feedback. -/
def contactsRendered : Form :=
  { contactsSetup with
    engine := some ((contactsSetup.engineFor contactsForm .live).receive .empty).2 }

theorem contacts_isRendered : contactsRendered.IsRendered contacts := by
  have rendered : contactsSetup.render ⟨contacts, .empty⟩ .live = (.ok false, contactsRendered) := rfl
  exact .render rfl rendered

/-- The field of the phones of any contact, and the phone that it shows. -/
def phonesView : View :=
  .ofSchema .standard ⟨[.item, .key "phones"]⟩ (some "phones") (.arrayOf requiredText)

def phoneView : View := .ofSchema .standard ⟨[.item, .key "phones", .item]⟩ none requiredText

/-- A third phone of the first contact is shown at its own place, with the label of every phone. -/
theorem addItem_contacts_phone :
    contactsRendered.IsRendered contacts ∧
      ∃ fragment, contactsRendered.addItem ⟨[.index 0, .key "phones"]⟩ 2 = .ok fragment ∧
        fragment.view.path = ⟨[.index 0, .key "phones", .index 2]⟩ ∧
          fragment.view.labelKey = phoneView.labelKey := by
  obtain ⟨engine, held, _, _, _, adds⟩ :=
    Form.addItem_exact contacts_isRendered ⟨[.index 0, .key "phones"]⟩ 2
  cases held
  obtain ⟨fragment, added, _, view, _⟩ := adds phonesView phoneView rfl rfl rfl
  refine ⟨contacts_isRendered, fragment, added, ?_, ?_⟩
  · rw [view]
    rfl
  · rw [view]
    rfl

end Forms
