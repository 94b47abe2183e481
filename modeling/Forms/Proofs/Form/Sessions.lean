/-
This file proves what a form answers over a whole session. Calls that fail leave no trace, a form works
from its first rendering on, and a new rendering starts afresh.
-/

import Forms.Proofs.Engine.Validation
import Forms.Proofs.Form.Items

namespace Forms

namespace Form

/-- What the host does with a form. -/
inductive Call where
  | render (document : Document) (source : Source)
  | renderText (text : String) (source : Source)
  | receive (feedback : Feedback)
  /-- The calls that read live values read them as they are at the time of the call. -/
  | validate (live : Json)
  | values (live : Json)
  | errorsFor (path : Path)
  | isValid
  | takeChanges
  | addItem (array : Path) (position : Nat)
  | view
  /-- The values behind the reader of the form change. The form is not told. -/
  | reread (source : Source)

inductive Answer where
  | verdict (verdict : Bool)
  | values (values : Json)
  | messages (messages : List String)
  | changes (changes : List Change)
  | fragment (fragment : Compiled)
  | view (view? : Option View)
  | silent

def Call.isRender : Call → Bool
  | .render _ _ | .renderText _ _ => true
  | _ => false

/-- The operations other than rendering. Looking at the view is possible at any time. -/
def Call.needsEngine : Call → Bool
  | .render _ _ | .renderText _ _ | .view | .reread _ => false
  | _ => true

/-- The reader of the form reads from another source from now on. -/
def reread (form : Form) (source : Source) : Form :=
  { form with engine := form.engine.map fun engine => { engine with source := source } }

/-- The answer to a call, with the form after it. The calls that only read the form have no other form to
give. -/
def respond (form : Form) : Call → Except FormError Answer × Form
  | .render document source => Prod.map (.verdict <$> ·) id (form.render document source)
  | .renderText text source => Prod.map (.verdict <$> ·) id (form.renderText text source)
  | .receive feedback => Prod.map (.verdict <$> ·) id (form.receive feedback)
  | .validate live => Prod.map (.verdict <$> ·) id (form.validate live)
  | .values live => (.values <$> form.values live, form)
  | .errorsFor path => (.messages <$> form.errorsFor path, form)
  | .isValid => (.verdict <$> form.isValid, form)
  | .takeChanges => Prod.map (.changes <$> ·) id form.takeChanges
  | .addItem array position => (.fragment <$> form.addItem array position, form)
  | .view => (.ok (.view form.view?), form)
  | .reread source => (.ok .silent, form.reread source)

/-- The answers of a session, with the form after it. -/
def session (form : Form) : List Call → List (Except FormError Answer) × Form
  | [] => ([], form)
  | call :: calls =>
      let (answer, next) := form.respond call
      let (answers, last) := next.session calls
      (answer :: answers, last)

/-- The calls of a session with their answers. -/
def record (form : Form) (calls : List Call) : List (Call × Except FormError Answer) :=
  calls.zip (form.session calls).1

/-- The form as it was built, before anything was rendered. -/
def setup (form : Form) : Form := { form with engine := none }

variable {form : Form} {call : Call}

theorem session_cons (form : Form) (call : Call) (calls : List Call) :
    form.session (call :: calls) =
      ((form.respond call).1 :: ((form.respond call).2.session calls).1,
        ((form.respond call).2.session calls).2) := rfl

theorem record_cons (form : Form) (call : Call) (calls : List Call) :
    form.record (call :: calls) =
      (call, (form.respond call).1) :: (form.respond call).2.record calls := rfl

section Effects

/-- What an operation can do. It fails and leaves the form as it is, or it renders and gives the form a new
engine, or it does not render and changes the engine that the form has, if at all. -/
inductive Effect {Result : Type} (form : Form) : (renders : Bool) → Except FormError Result × Form → Prop
  | failed {renders : Bool} (error : FormError) : Effect form renders (.error error, form)
  | rendered (result : Result) (engine : Engine) :
      Effect form true (.ok result, { form with engine := some engine })
  | passed (result : Result) (change : Engine → Engine) :
      Effect form false (.ok result, { form with engine := form.engine.map change })

variable {Result : Type} {renders : Bool} {outcome : Except FormError Result × Form}

theorem Effect.map {Other : Type} (effect : form.Effect renders outcome) (wrap : Result → Other) :
    form.Effect renders (Prod.map (wrap <$> ·) id outcome) := by
  cases effect with
  | failed error => exact .failed error
  | rendered result engine => exact .rendered (wrap result) engine
  | passed result change => exact .passed (wrap result) change

/-- An operation that fails leaves the form as it is. -/
theorem Effect.eq_of_isOk_eq_false (effect : form.Effect renders outcome)
    (failed : outcome.1.isOk = false) : outcome.2 = form := by
  cases effect with
  | failed error => rfl
  | rendered result engine => cases failed
  | passed result change => cases failed

/-- No operation changes what the form was built with. -/
theorem Effect.setup_eq (effect : form.Effect renders outcome) : outcome.2.setup = form.setup := by
  cases effect <;> rfl

theorem Effect.isSome_engine_iff (effect : form.Effect renders outcome) :
    outcome.2.engine.isSome = true ↔
      form.engine.isSome = true ∨ renders = true ∧ outcome.1.isOk = true := by
  cases effect with
  | failed error => simp [Except.isOk, Except.toBool]
  | rendered result engine => simp [Except.isOk, Except.toBool]
  | passed result change => simp

theorem effect_render (form : Form) (document : Document) (source : Source) :
    form.Effect true (form.render document source) := by
  rw [render]
  cases (form.compiler.compile document.form).result with
  | error error => exact .failed _
  | ok compiled => exact .rendered _ _

theorem effect_renderText (form : Form) (text : String) (source : Source) :
    form.Effect true (form.renderText text source) := by
  rw [renderText]
  cases Document.ofText text with
  | error error => exact .failed _
  | ok document => exact form.effect_render document source

theorem effect_run (form : Form) (pass : Engine → Result × Engine) :
    form.Effect false (form.run pass) := by
  obtain ⟨registry, catalog, rendering, validation, engine⟩ := form
  cases engine with
  | none => exact .failed _
  | some engine => exact .passed _ fun engine => (pass engine).2

/-- Reading a form does not change it. -/
theorem effect_read (form : Form) (result : Except FormError Result) : form.Effect false (result, form) := by
  have unchanged : { form with engine := form.engine.map id } = form := by rw [Option.map_id_fun, id]
  cases result with
  | error error => exact .failed error
  | ok result =>
      have passed := @Effect.passed Result form result id
      rwa [unchanged] at passed

theorem effect_respond (form : Form) (call : Call) : form.Effect call.isRender (form.respond call) := by
  cases call with
  | render document source => exact (form.effect_render document source).map _
  | renderText text source => exact (form.effect_renderText text source).map _
  | receive feedback => exact (form.effect_run (·.receive feedback)).map Answer.verdict
  | validate live => exact (form.effect_run (·.validate live)).map Answer.verdict
  | takeChanges => exact (form.effect_run Engine.takeChanges).map Answer.changes
  | reread source => exact .passed _ _
  | _ => exact form.effect_read _

end Effects

/-- Without the calls that failed, a session has the answers of the other calls and ends in the same
form. -/
theorem session_filter_isOk (form : Form) (calls : List Call) :
    form.session (((form.record calls).filter (·.2.isOk)).map Prod.fst) =
      (((form.record calls).filter (·.2.isOk)).map Prod.snd, (form.session calls).2) := by
  induction calls generalizing form with
  | nil => rfl
  | cons call calls inductionHypothesis =>
      rw [record_cons, session_cons]
      cases answered : (form.respond call).1.isOk with
      | true =>
          simp only [List.filter_cons, answered, if_true, List.map_cons]
          rw [session_cons, inductionHypothesis]
      | false =>
          simp only [List.filter_cons, answered, if_false, Bool.false_eq_true]
          rw [(form.effect_respond call).eq_of_isOk_eq_false answered, inductionHypothesis]

theorem setup_session (form : Form) (calls : List Call) : (form.session calls).2.setup = form.setup := by
  induction calls generalizing form with
  | nil => rfl
  | cons call calls inductionHypothesis =>
      rw [session_cons, inductionHypothesis, (form.effect_respond call).setup_eq]

/-- A rendering that succeeds does not depend on what was rendered before. -/
theorem render_setup {document : Document} {source : Source}
    (rendered : (form.render document source).1.isOk = true) :
    form.setup.render document source = form.render document source := by
  have same : form.setup.compiler = form.compiler := rfl
  rw [render] at rendered ⊢
  rw [render, same]
  cases compiled : (form.compiler.compile document.form).result with
  | ok compiled => rfl
  | error error =>
      rw [compiled] at rendered
      cases rendered

theorem renderText_setup {text : String} {source : Source}
    (rendered : (form.renderText text source).1.isOk = true) :
    form.setup.renderText text source = form.renderText text source := by
  rw [renderText] at rendered ⊢
  rw [renderText]
  cases parsed : Document.ofText text with
  | ok document =>
      rw [parsed] at rendered
      exact render_setup rendered
  | error error =>
      rw [parsed] at rendered
      cases rendered

theorem respond_setup (renders : call.isRender = true) (answered : (form.respond call).1.isOk = true) :
    form.setup.respond call = form.respond call := by
  cases call with
  | render document source =>
      have rendered := (isOk_map _ _).symm.trans answered
      exact congrArg (Prod.map _ id) (render_setup rendered)
  | renderText text source =>
      have rendered := (isOk_map _ _).symm.trans answered
      exact congrArg (Prod.map _ id) (renderText_setup rendered)
  | _ => cases renders

theorem rendered_bind_eq_notRendered_iff {Result : Type} {after : Engine → Except FormError Result}
    (works : ∀ engine, after engine ≠ .error .notRendered) :
    form.rendered >>= after = .error .notRendered ↔ form.engine = none := by
  unfold rendered
  cases form.engine with
  | none => simp [bind, Except.bind]
  | some engine => simpa [bind, Except.bind] using works engine

theorem addItem_eq_notRendered_iff {array : Path} {position : Nat} :
    form.addItem array position = .error .notRendered ↔ form.engine = none := by
  rw [addItem, itemSchema, bind_assoc]
  apply rendered_bind_eq_notRendered_iff
  intro engine failed
  split at failed
  · cases failed
  · split at failed
    · cases failed
    · split at failed
      · simp only [bind, Except.bind] at failed
        split at failed <;> cases failed
      · cases failed

theorem run_eq_notRendered_iff {Result : Type} (pass : Engine → Result × Engine) :
    (form.run pass).1 = .error .notRendered ↔ form.engine = none := by
  obtain ⟨registry, catalog, rendering, validation, engine⟩ := form
  cases engine <;> simp [run, Form.rendered]

/-- Without an engine every call that needs one fails in the same way, and with an engine no call fails
in this way. -/
theorem respond_eq_notRendered_iff (needs : call.needsEngine = true) :
    (form.respond call).1 = .error .notRendered ↔ form.engine = none := by
  cases call with
  | receive feedback => exact map_eq_error_iff.trans (run_eq_notRendered_iff (·.receive feedback))
  | validate live => exact map_eq_error_iff.trans (run_eq_notRendered_iff (·.validate live))
  | takeChanges => exact map_eq_error_iff.trans (run_eq_notRendered_iff Engine.takeChanges)
  | values live =>
      exact map_eq_error_iff.trans (rendered_bind_eq_notRendered_iff fun _ failed => nomatch failed)
  | errorsFor path =>
      exact map_eq_error_iff.trans (rendered_bind_eq_notRendered_iff fun _ failed => nomatch failed)
  | isValid =>
      exact map_eq_error_iff.trans (rendered_bind_eq_notRendered_iff fun _ failed => nomatch failed)
  | addItem array position => exact map_eq_error_iff.trans addItem_eq_notRendered_iff
  | _ => cases needs

/-- A form has an engine when it had one or when a rendering has succeeded since then. -/
theorem isSome_engine_session (form : Form) (calls : List Call) :
    (form.session calls).2.engine.isSome = true ↔
      form.engine.isSome = true ∨
        ∃ entry ∈ form.record calls, entry.1.isRender = true ∧ entry.2.isOk = true := by
  induction calls generalizing form with
  | nil => simp [session, record]
  | cons call calls inductionHypothesis =>
      rw [session_cons, record_cons, inductionHypothesis, (form.effect_respond call).isSome_engine_iff]
      simp [or_assoc]

/-- After a rendering that succeeds, a session goes on as it would after the same rendering of a new
form. -/
theorem session_cons_setup (renders : call.isRender = true)
    (answered : (form.respond call).1.isOk = true) (calls : List Call) :
    form.session (call :: calls) = form.setup.session (call :: calls) := by
  rw [session_cons, session_cons, respond_setup renders answered]

/-- Calls that fail change nothing, and rendering starts afresh. Over every session of a new form, a call
that fails leaves the form as it is, and the calls that succeed have the same answers and end in the same
form when the calls that fail are left out. A call that needs an engine fails for want of one exactly when
no rendering has succeeded before it. From a rendering that succeeds on, the answers and the form are
those of a new form on which the session starts with this rendering. -/
theorem session_exact (unrendered : form.engine = none) :
    (∀ earlier call, ((form.session earlier).2.respond call).1.isOk = false →
      ((form.session earlier).2.respond call).2 = (form.session earlier).2) ∧
    (∀ calls,
      form.session (((form.record calls).filter (·.2.isOk)).map Prod.fst) =
        (((form.record calls).filter (·.2.isOk)).map Prod.snd, (form.session calls).2)) ∧
    (∀ earlier call, call.needsEngine = true →
      (((form.session earlier).2.respond call).1 = .error .notRendered ↔
        ¬∃ entry ∈ form.record earlier, entry.1.isRender = true ∧ entry.2.isOk = true)) ∧
    (∀ earlier call, call.isRender = true →
      ((form.session earlier).2.respond call).1.isOk = true →
        ∀ later, (form.session earlier).2.session (call :: later) = form.session (call :: later)) := by
  have new : form.setup = form := by
    rw [setup, ← unrendered]
  refine ⟨?_, form.session_filter_isOk, ?_, ?_⟩
  · intro earlier call failed
    exact ((form.session earlier).2.effect_respond call).eq_of_isOk_eq_false failed
  · intro earlier call needs
    have engine := form.isSome_engine_session earlier
    rw [unrendered] at engine
    rw [respond_eq_notRendered_iff needs, ← Option.not_isSome_iff_eq_none, engine]
    simp
  · intro earlier call renders answered later
    rw [session_cons_setup renders answered, setup_session, new]

end Form

/-- The first two calls fail, because nothing is rendered and because the text is no document. -/
def contactsCalls : List Form.Call :=
  [.isValid, .renderText "[" .live, .render ⟨contacts, .empty⟩ .live, .validate namelessContact]

/-- A text that is no document changes nothing, and rendering the contacts again gives up the missing name
and the changes that wait. -/
theorem session_exact_contacts :
    contactsSetup.engine = none ∧
      (contactsSetup.record contactsCalls).map (·.2.isOk) = [false, false, true, true] ∧
      ((contactsSetup.session contactsCalls).2.respond (.renderText "[" .live)).2 =
        (contactsSetup.session contactsCalls).2 ∧
      contactsSetup.session [.render ⟨contacts, .empty⟩ .live, .validate namelessContact] =
        (((contactsSetup.record contactsCalls).filter (·.2.isOk)).map Prod.snd,
          (contactsSetup.session contactsCalls).2) ∧
      (contactsSetup.respond .takeChanges).1 = .error .notRendered ∧
      (contactsSetup.session contactsCalls).2.session
          [.render ⟨contacts, .empty⟩ .live, .takeChanges, .isValid] =
        contactsSetup.session [.render ⟨contacts, .empty⟩ .live, .takeChanges, .isValid] := by
  have unrendered : contactsSetup.engine = none := rfl
  obtain ⟨unchanged, kept, needs, afresh⟩ := Form.session_exact unrendered
  have answered : (contactsSetup.record contactsCalls).map (·.2.isOk) = [false, false, true, true] := by
    decide +kernel
  refine ⟨unrendered, answered, ?_, kept contactsCalls, ?_, ?_⟩
  · exact unchanged contactsCalls (.renderText "[" .live) (by decide +kernel)
  · exact (needs [] .takeChanges rfl).mpr (by rintro ⟨_, listed, _⟩; cases listed)
  · exact afresh contactsCalls (.render ⟨contacts, .empty⟩ .live) rfl (by decide +kernel) _

end Forms
