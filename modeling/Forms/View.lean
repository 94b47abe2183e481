/-
This file holds views. A view is a field as the host of a form shows it: every field of a schema with
its path, its label and its widget.
-/

import Forms.Check.Kind
import Forms.Options
import Forms.Schema.Encode

namespace Forms

/-- The item of an array stands for every element. Its schema is kept for new elements. -/
structure View where
  path : Path
  key : Option String
  kind : Kind
  labelKey : String
  widget : String
  hint : Option String
  checks : List Declaration
  children : List View
  item : Option View
  itemSchema : Option Schema
deriving Repr

namespace View

/-- The label key of a field without a label of its own. Positions are left out, so all elements of
an array share their labels. -/
def labelKeyFor (options : RenderOptions) (path : Path) : String :=
  options.labelPrefix ++
    (if path.keyNames.isEmpty then "form" else ".".intercalate path.keyNames)

mutual

/-- The view of a schema at a path. -/
def ofSchema (options : RenderOptions) (path : Path) (key : Option String) : Schema → View
  | ⟨kind, label, widget, hint, checks, children, items⟩ => {
      path
      key
      kind
      labelKey := label.getD (labelKeyFor options path)
      widget := widget.getD (options.widgets.forKind kind)
      hint
      checks
      children := ofChildren options path children
      item := ofItems options path items
      itemSchema := items }
termination_by structural schema => schema

def ofChildren (options : RenderOptions) (parent : Path) : List (String × Schema) → List View
  | [] => []
  | child :: children => ofChild options parent child :: ofChildren options parent children
termination_by structural children => children

def ofChild (options : RenderOptions) (parent : Path) : String × Schema → View
  | (key, schema) => ofSchema options (parent.key key) (some key) schema
termination_by structural child => child

def ofItems (options : RenderOptions) (parent : Path) : Option Schema → Option View
  | none => none
  | some schema => some (ofSchema options parent.item none schema)
termination_by structural items => items

end

def isRequired (view : View) : Bool := view.checks.any Declaration.isRequired

/-- The first child with the key answers for the key. -/
def child? (view : View) (key : String) : Option View :=
  view.children.find? fun child => child.key == some key

/-- The field that one step leads to. Every element of an array has the view of the item. -/
def enter? (view : View) : Step → Option View
  | .key name => view.child? name
  | .index _ | .item => view.item

/-- The field that some steps lead to. -/
def follow? (view : View) : List Step → Option View
  | [] => some view
  | step :: steps => (view.enter? step).bind (·.follow? steps)

theorem follow?_append (view : View) (first second : List Step) :
    view.follow? (first ++ second) = (view.follow? first).bind (·.follow? second) := by
  induction first generalizing view with
  | nil => rfl
  | cons step steps inductionHypothesis =>
      simp only [List.cons_append, follow?, Option.bind_assoc]
      exact congrArg (Option.bind _) (funext inductionHypothesis)

/-- The field at a path that starts here. -/
def find? (view : View) (path : Path) : Option View := view.follow? path.steps

mutual

/-- All fields from the top. A field comes before its children, and the item comes last. -/
def nodes : View → List View
  | ⟨path, key, kind, labelKey, widget, hint, checks, children, item, itemSchema⟩ =>
      ⟨path, key, kind, labelKey, widget, hint, checks, children, item, itemSchema⟩ ::
        (childNodes children ++ itemNodes item)
termination_by structural view => view

def childNodes : List View → List View
  | [] => []
  | child :: children => child.nodes ++ childNodes children
termination_by structural children => children

def itemNodes : Option View → List View
  | none => []
  | some item => item.nodes
termination_by structural item => item

end

mutual

/-- The value of a field that nobody has touched. An object has the values of its children. -/
def emptyValue : View → Json
  | ⟨_, _, kind, _, _, _, _, children, _, _⟩ =>
      match kind with
      | .object => .object (Json.collectMembers (emptyMembers children))
      | other => other.emptyValue
termination_by structural view => view

/-- Fields without a key have no place in an object. -/
def emptyMembers : List View → List (String × Json)
  | [] => []
  | child :: children =>
      match child.key with
      | some key => (key, child.emptyValue) :: emptyMembers children
      | none => emptyMembers children
termination_by structural children => children

end

mutual

/-- The value that is handed to the host. What is absent or empty is left out. -/
def toJson : View → Json
  | ⟨path, key, kind, labelKey, widget, hint, checks, children, item, _⟩ =>
      .object (("path", .string path.text) :: (Schema.textMember "key" key ++
        [("type", .string kind.name), ("label_key", .string labelKey),
          ("widget", .string widget)] ++
        Schema.textMember "hint" hint ++ Schema.checksMember checks ++
        (if children.isEmpty then [] else [("children", .array (childValues children))]) ++
        itemMember item))
termination_by structural view => view

def childValues : List View → List Json
  | [] => []
  | child :: children => child.toJson :: childValues children
termination_by structural children => children

def itemMember : Option View → List (String × Json)
  | none => []
  | some item => [("item", item.toJson)]
termination_by structural item => item

end

end View

end Forms
