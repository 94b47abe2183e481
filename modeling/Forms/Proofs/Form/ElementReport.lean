/-
This file proves that one element of an array can be validated on its own. The rules of the fragment
find for the values of the whole form what the rules of the form find at the paths of the element.
-/

import Forms.Proofs.Engine.Validation
import Forms.Proofs.Form.Items
import Forms.Proofs.Report.Restriction

namespace Forms

namespace Compiler.Element

variable {compiler : Compiler} {schema : Schema} (element : compiler.Element schema)

/-- The paths of the fragment are the moved paths of the item. -/
theorem mem_fragment_paths_iff {path : Path} :
    path ∈ element.fragment.rules.paths ↔
      ∃ inside ∈ element.item.nodes, element.move inside.path = path := by
  rw [mem_paths_compileAt element.compilesItem]
  constructor
  · rintro ⟨node, member, rfl⟩
    obtain ⟨inside, inItem, rfl⟩ := element.mem_fragment_nodes_iff.mp member
    exact ⟨inside, inItem, (View.mapPaths_path inside).symm⟩
  · rintro ⟨inside, inItem, rfl⟩
    exact ⟨_, element.mem_fragment_nodes_iff.mpr ⟨inside, inItem, rfl⟩, View.mapPaths_path inside⟩

/-- The fields of the form whose general paths start like the element are fields of the item. -/
theorem mem_item_nodes (distinct : schema.DistinctKeys) {inside : View} {path : Path}
    (member : inside ∈ element.form.view.nodes) (same : inside.path = path.generalize)
    (starts : path.startsWith element.place = true) : inside ∈ element.item.nodes := by
  obtain ⟨steps, rfl⟩ := Path.startsWith_iff.mp starts
  have found := (find?_compile distinct element.compiles).mpr ⟨member, same⟩
  have way : (element.place.extend steps).steps =
      element.array.steps ++ .index element.position :: steps := by
    simp [place, Path.extend, Path.index, Path.push]
  have array : element.form.view.follow? element.array.steps = some element.node := element.found
  have entered : element.node.enter? (.index element.position) = some element.item := element.node_item
  rw [View.find?, way, View.follow?_append, array, Option.bind_some, View.follow?, entered,
    Option.bind_some, item] at found
  exact (View.mem_nodes_of_follow? found).1

section Values

variable {values inner : Json}

/-- A moved field stands for the paths below the element that the field of every element stands for. -/
theorem mem_instances_move (concrete : element.array.isTemplate = false)
    (reached : element.place.lookup values = some inner) {inside : View}
    (member : inside ∈ element.item.nodes) {path : Path} :
    path ∈ (element.move inside.path).instances values ↔
      path.startsWith element.place = true ∧ path ∈ inside.path.instances values := by
  have placeConcrete : element.place.isTemplate = false := by
    rw [Path.isTemplate_eq_false_iff] at concrete ⊢
    simpa [place, Path.index, Path.push] using concrete
  obtain ⟨steps, same, moved, _⟩ := element.exists_steps member
  rw [moved, Path.mem_instances_extend placeConcrete reached, generalize_place, same]

variable {part whole : Engine}

/-- The rules of the fragment have the issues that the rules of the form have below the element. -/
theorem issuesAt_eq (distinct : schema.DistinctKeys) (concrete : element.array.isTemplate = false)
    (reached : element.place.lookup values = some inner) (partRules : part.rules = element.fragment.rules)
    (wholeRules : whole.rules = element.form.rules) (sameCatalog : part.catalog = whole.catalog)
    (sameOptions : part.options = whole.options) (path : Path) :
    Report.issuesAt path (part.valueIssues values) =
      if path.startsWith element.place then Report.issuesAt path (whole.valueIssues values) else [] := by
  have sameMessages : part.foundMessage? values path = whole.foundMessage? values path := by
    funext rule
    rw [Engine.foundMessage?, Engine.foundMessage?, sameCatalog, sameOptions]
  have general : whole.rules.IsGeneral := wholeRules ▸ isGeneral_of_compile element.compiles
  have unambiguous : part.rules.IsUnambiguous :=
    partRules ▸ isUnambiguous_of_compileAt element.compilesItem
  by_cases governed : ∃ inside ∈ element.item.nodes,
      path ∈ (element.move inside.path).instances values
  · obtain ⟨inside, member, listed⟩ := governed
    obtain ⟨starts, wholeListed⟩ := (element.mem_instances_move concrete reached member).mp listed
    obtain ⟨rules, partFound, wholeFound⟩ := element.exists_rules distinct member
    rw [← partRules, Rulebook.get?_eq_some_iff] at partFound
    rw [← wholeRules, Rulebook.get?_eq_some_iff] at wholeFound
    rw [if_pos starts, Engine.issuesAt_valueIssues_of_mem unambiguous partFound listed,
      Engine.issuesAt_valueIssues_of_mem general.isUnambiguous wholeFound wholeListed, sameMessages]
  · have partSilent : Report.issuesAt path (part.valueIssues values) = [] := by
      refine Engine.issuesAt_valueIssues_eq_nil fun entry member listed => governed ?_
      have inPaths := Rulebook.mem_paths_of_mem member
      rw [partRules] at inPaths
      obtain ⟨inside, inItem, same⟩ := element.mem_fragment_paths_iff.mp inPaths
      exact ⟨inside, inItem, same ▸ listed⟩
    rw [partSilent]
    split
    · next starts =>
        refine (Engine.issuesAt_valueIssues_eq_nil fun entry member listed => governed ?_).symm
        obtain ⟨_, matched, _⟩ := Path.mem_instances.mp listed
        have same := general.eq_generalize member (.inr matched)
        have inPaths := Rulebook.mem_paths_of_mem member
        rw [wholeRules] at inPaths
        obtain ⟨inside, inForm, samePath⟩ := (mem_paths_compileAt element.compiles).mp inPaths
        have inItem := element.mem_item_nodes distinct inForm (samePath.trans same) starts
        exact ⟨inside, inItem, (element.mem_instances_move concrete reached inItem).mpr
          ⟨starts, samePath ▸ listed⟩⟩
    · rfl

/-- A validation with the rules of the fragment reports what a validation with the rules of the form
reports below the element. -/
theorem report_eq_below (distinct : schema.DistinctKeys) (concrete : element.array.isTemplate = false)
    (reached : element.place.lookup values = some inner) (partRules : part.rules = element.fragment.rules)
    (wholeRules : whole.rules = element.form.rules) (sameCatalog : part.catalog = whole.catalog)
    (sameOptions : part.options = whole.options) :
    (part.validateValues values).2.report =
      (whole.validateValues values).2.report.below element.place := by
  refine Report.eq_of_issues_eq fun path => ?_
  have issues := element.issuesAt_eq distinct concrete reached partRules wholeRules sameCatalog
    sameOptions path
  rw [Report.issues_below]
  change (Report.ofIssues part.options.deduplicate (part.valueIssues values)).issues path =
    if path.startsWith element.place then
      (Report.ofIssues whole.options.deduplicate (whole.valueIssues values)).issues path
    else []
  rw [sameOptions]
  split at issues
  · next starts => rw [if_pos starts, Report.issues_ofIssues_congr issues]
  · next differs => rw [if_neg differs, Report.issues_ofIssues_eq_nil _ issues]

end Values

end Compiler.Element

namespace Form

variable {form : Form} {schema : Schema}

/-- One element of an array can be validated on its own. With the rules that a form gives for the
element, and with the messages and the options of the form, a validation of the values of the whole form
reports what the form itself reports at the paths of the element. -/
theorem element_report (rendered : form.IsRendered schema) (distinct : schema.DistinctKeys)
    {engine : Engine} (held : form.engine = some engine) {array : Path}
    (concrete : array.isTemplate = false) {node : View} (found : engine.view.find? array = some node)
    (declares : node.item.isSome = true) {values : Json} {items : List Json}
    (reached : array.lookup values = some (.array items)) {position : Nat}
    (inside : position < items.length) :
    ∃ fragment, form.addItem array position = .ok fragment ∧
      ∀ view source,
        let element : Engine :=
          { rules := fragment.rules, view, source, catalog := form.catalog, options := form.validation }
        (element.validateValues values).2.report =
          (engine.validateValues values).2.report.below (array.index position) := by
  obtain ⟨compiled, running, compiles, runs⟩ := rendered.exists_runs
  obtain rfl : running = engine := Option.some.inj (runs.held.symm.trans held)
  have declared : node.itemSchema.isSome = true := by
    rwa [Compiler.item_of_find? compiles (runs.view ▸ found), Option.isSome_map] at declares
  obtain ⟨inner, itemSchema⟩ := Option.isSome_iff_exists.mp declared
  obtain ⟨element, rfl, rfl, rfl, rfl, added⟩ :=
    exists_element position runs compiles concrete found itemSchema
  have place : element.place.lookup values = some items[element.position] := by
    rw [Compiler.Element.place, Path.index, Path.lookup_push, reached]
    exact List.getElem?_eq_getElem inside
  refine ⟨element.fragment, added, fun view source => ?_⟩
  exact element.report_eq_below distinct concrete place rfl runs.rules runs.catalog.symm
    runs.options.symm

end Form

/-- A contact with two phones, of which the second one is blank. -/
def blankPhone : Json := .array [.object [("phones", .array [.string "1", .string " "])]]

/-- The second phone is validated on its own, and its text is missing. -/
theorem element_report_contacts_phone :
    contactsRendered.IsRendered contacts ∧ contacts.DistinctKeys ∧
      ∃ engine fragment, contactsRendered.engine = some engine ∧
        engine.view.find? ⟨[.index 0, .key "phones"]⟩ = some phonesView ∧
          contactsRendered.addItem ⟨[.index 0, .key "phones"]⟩ 1 = .ok fragment ∧
            let element : Engine :=
              { rules := fragment.rules, view := phoneView, source := .live,
                catalog := contactsRendered.catalog, options := contactsRendered.validation }
            (element.validateValues blankPhone).2.report =
                (engine.validateValues blankPhone).2.report.below
                  ⟨[.index 0, .key "phones", .index 1]⟩ ∧
              (element.validateValues blankPhone).2.report.issues
                ⟨[.index 0, .key "phones", .index 1]⟩ ≠ [] := by
  have concrete : (⟨[.index 0, .key "phones"]⟩ : Path).isTemplate = false := rfl
  have found : contactsForm.view.find? ⟨[.index 0, .key "phones"]⟩ = some phonesView := rfl
  have reached : (⟨[.index 0, .key "phones"]⟩ : Path).lookup blankPhone =
      some (.array [.string "1", .string " "]) := rfl
  have inside : 1 < [Json.string "1", .string " "].length := by decide
  obtain ⟨fragment, added, alike⟩ := Form.element_report contacts_isRendered contacts_distinctKeys rfl
    concrete found rfl reached inside
  refine ⟨contacts_isRendered, contacts_distinctKeys, _, fragment, rfl, rfl, added, alike _ _, ?_⟩
  rw [alike, Report.issues_below]
  decide +kernel

end Forms
