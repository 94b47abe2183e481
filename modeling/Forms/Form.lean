/-
This file holds forms. A form is configured once, and then it is rendered from documents. Rendering
again replaces what was there before. An operation that may change a form gives the form after it, whether
the operation fails or not.
-/

import Forms.Engine
import Forms.Schema.Document

namespace Forms

/-- The reasons why an operation of a form fails. -/
inductive FormError where
  | compile (error : CompileError)
  | path (error : PathError)
  | configuration (error : OverrideError)
  | decode (error : DecodeError)
  | notRendered
  | notArray (path : Path)
deriving Repr

def FormError.message : FormError → String
  | .compile error => "Compile error: " ++ error.message
  | .path error => "Path error: " ++ error.message
  | .configuration error => "Configuration error: " ++ error.message
  | .decode error => "JSON error: " ++ error.message
  | .notRendered => "Form has not been rendered yet"
  | .notArray array => "Field '" ++ array.text ++ "' is not an array"

/-- A form that is not rendered has no engine. -/
structure Form where
  registry : Registry := .standard
  catalog : Catalog := .standard
  rendering : RenderOptions := .standard
  validation : ValidationOptions := .standard
  engine : Option Engine := none

namespace Form

/-- The member of the options with a name. Options that are no object have no members. -/
def part (options : Json) (name : String) : Json := (options.member? name).getD .null

def configured {α : Type} (result : Except OverrideError α) : Except FormError α :=
  match result with
  | .ok value => .ok value
  | .error error => .error (.configuration error)

/-- The options are one object with a part for each concern. The messages are read first, then the
options of rendering and those of validation. -/
def configure (options : Json) (extensions : List (String × Maker)) : Except FormError Form := do
  let catalog ← configured (Catalog.standard.withOverrides (part options "messages"))
  let rendering ← configured (RenderOptions.group.merge .standard (part options "render"))
  let validation ← configured (ValidationOptions.group.merge .standard (part options "validation"))
  return { registry := Registry.standard.withExtensions extensions, catalog, rendering, validation }

/-- The compiler of the form. -/
def compiler (form : Form) : Compiler := ⟨form.registry, form.catalog, form.rendering⟩

/-- A new engine for a compiled form. -/
def engineFor (form : Form) (compiled : Compiled) (source : Source) : Engine where
  rules := compiled.rules
  view := compiled.view
  source := source
  catalog := form.catalog
  options := form.validation

/-- The document is compiled, and the feedback that it carries is shown. The form gets the new engine at
the end. -/
def render (form : Form) (document : Document) (source : Source) : Except FormError Bool × Form :=
  match (form.compiler.compile document.form).result with
  | .error error => (.error (.compile error), form)
  | .ok compiled =>
      let (shown, engine) := (form.engineFor compiled source).receive document.feedback
      (.ok shown, { form with engine := some engine })

def renderText (form : Form) (text : String) (source : Source) : Except FormError Bool × Form :=
  match Document.ofText text with
  | .error error => (.error (.decode error), form)
  | .ok document => form.render document source

/-- The engine of a rendered form. -/
def rendered (form : Form) : Except FormError Engine :=
  match form.engine with
  | some engine => .ok engine
  | none => .error .notRendered

/-- A pass of the engine has a result and a next engine. -/
def run {α : Type} (form : Form) (pass : Engine → α × Engine) : Except FormError α × Form :=
  match form.rendered with
  | .error error => (.error error, form)
  | .ok engine =>
      let (result, next) := pass engine
      (.ok result, { form with engine := some next })

def receive (form : Form) (feedback : Feedback) : Except FormError Bool × Form :=
  form.run (·.receive feedback)

/-- The result says whether the form is invalid. -/
def validate (form : Form) (live : Json) : Except FormError Bool × Form := form.run (·.validate live)

def takeChanges (form : Form) : Except FormError (List Change) × Form := form.run Engine.takeChanges

def values (form : Form) (live : Json) : Except FormError Json := do
  let engine ← form.rendered
  return engine.values live

def errorsFor (form : Form) (path : Path) : Except FormError (List String) := do
  let engine ← form.rendered
  return engine.report.messages path

def isValid (form : Form) : Except FormError Bool := do
  let engine ← form.rendered
  return !engine.hasErrors

def view? (form : Form) : Option View := form.engine.map Engine.view

/-- The schema of the elements of an array. Elements are added under concrete paths only. -/
def itemSchema (form : Form) (array : Path) : Except FormError Schema := do
  let engine ← form.rendered
  if array.isTemplate then .error (.path ⟨array.text, .templateArray⟩)
  else
    match engine.view.find? array with
    | none => .error (.path ⟨array.text, .noSuchField⟩)
    | some view =>
        match view.itemSchema with
        | some schema => .ok schema
        | none => .error (.notArray array)

/-- The element of an array that the host adds at a position. -/
def addItem (form : Form) (array : Path) (position : Nat) : Except FormError Compiled := do
  let schema ← form.itemSchema array
  match (form.compiler.compileItem array position schema).result with
  | .ok compiled => .ok compiled
  | .error error => .error (.compile error)

end Form

end Forms
