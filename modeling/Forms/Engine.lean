/-
This file holds engines. An engine validates the values of one form, takes in the feedback of the
server, and keeps the report that the form shows.
-/

import Forms.Compiler
import Forms.Feedback
import Forms.Report

namespace Forms

/-- Where the values of a form come from. The host holds the live values and may change them at any
time. -/
inductive Source where
  | live
  | fixed (values : Json)
  | computed (values : View → Json)

/-- The values as the form shows them now. A form that nobody has touched has no live values yet. -/
def Source.read (source : Source) (view : View) (live : Json) : Json :=
  match source with
  | .live => if live = .null then view.emptyValue else live
  | .fixed values => values
  | .computed values => values view

/-- The report is the result of the last pass. The changes wait until the host takes them. -/
structure Engine where
  rules : Rulebook
  view : View
  source : Source
  catalog : Catalog := .standard
  options : ValidationOptions := .standard
  report : Report := .empty
  pending : List Change := []

namespace Engine

/-- The path of a field that feedback can name. Feedback names fields by concrete paths. -/
def field (engine : Engine) (text : String) : Except PathError Path :=
  match Path.ofText text with
  | .error error => .error error
  | .ok path =>
      if path.isTemplate then .error ⟨text, .placeholderInConcrete⟩
      else if engine.rules.accepts path then .ok path
      else .error ⟨text, .noSuchField⟩

/-- The issues of feedback. Notices that name no field are dropped. -/
def feedbackIssues (engine : Engine) (feedback : Feedback) : List (Path × Issue) :=
  feedback.entries.flatMap fun entry =>
    match engine.field entry.1 with
    | .ok path => entry.2.map fun notice => (path, ⟨notice.localize engine.catalog, .server⟩)
    | .error _ => []

/-- The message for a check that fails itself. -/
def fallback (engine : Engine) : String := engine.catalog.format engine.options.fallbackKey []

/-- The message of one rule at one field. -/
def messageOf? (engine : Engine) (values : Json) (path : Path) (rule : Rule) : Option String :=
  let site : Site := ⟨path, values⟩
  (rule.check site.value site).message? engine.fallback

/-- The issues of one field. Every rule has its say. -/
def fieldIssues (engine : Engine) (values : Json) (rules : List Rule) (path : Path) :
    List (Path × Issue) :=
  (rules.filterMap (engine.messageOf? values path)).map fun message => (path, ⟨message, .client⟩)

/-- The issues of some values. Templates stand for every field that the values have. -/
def valueIssues (engine : Engine) (values : Json) : List (Path × Issue) :=
  engine.rules.toList.flatMap fun entry =>
    (entry.1.instances values).flatMap (engine.fieldIssues values entry.2)

def hasErrors (engine : Engine) : Bool := !engine.report.isEmpty

/-- A pass replaces the report and adds what has changed to the waiting changes. -/
def settle (engine : Engine) (issues : List (Path × Issue)) : Engine :=
  let report := Report.ofIssues engine.options.deduplicate issues
  { engine with report := report, pending := engine.pending ++ report.changesSince engine.report }

/-- The feedback of the server takes the place of the report. The result says whether any of it was
for a field of this form. -/
def receive (engine : Engine) (feedback : Feedback) : Bool × Engine :=
  let next := engine.settle (engine.feedbackIssues feedback)
  (next.hasErrors, next)

/-- The values are validated. The result says whether the form is invalid. -/
def validateValues (engine : Engine) (values : Json) : Bool × Engine :=
  let next := engine.settle (engine.valueIssues values)
  (next.hasErrors, next)

/-- The current values. -/
def values (engine : Engine) (live : Json) : Json := engine.source.read engine.view live

/-- The current values are validated. -/
def validate (engine : Engine) (live : Json) : Bool × Engine :=
  engine.validateValues (engine.values live)

/-- The host takes the waiting changes. -/
def takeChanges (engine : Engine) : List Change × Engine :=
  (engine.pending, { engine with pending := [] })

end Engine

end Forms
