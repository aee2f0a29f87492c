import Guest.Message
import Guest.Proofs.Evaluation.Polls
import Guest.TypeExpr.Record

/-!
# Evaluating in parts

A script that is evaluated without waiting may be cut anywhere: its parts can be evaluated one
after another by the same evaluator, or each by an evaluator of its own.  So the loops that render
templates and messages expression by expression do what the script of the whole does.
-/

namespace Guest

/-! ## Sequences of sessions -/

namespace Session

variable {σ α β : Type}

theorem bind_apply (session : Session σ α) (f : α → Session σ β) (state : σ) :
    (session >>= f) state =
      match session state with
      | (.ok a, state) => f a state
      | (.error error, state) => (.error error, state) := by
  have hbind : (session >>= f) state =
      ExceptT.bindCont f (session state).1 (session state).2 := rfl
  rw [hbind]
  rcases session state with ⟨error | a, state⟩
  · rfl
  · rfl

end Session

/-! ## Scripts cut into parts -/

namespace Task

variable {α β : Type}

/-- One computation after an evaluation. -/
def bind : Task α → (α → Script β) → Task β
  | running script, f => running (script.bind f)
  | awaiting name answer polls next, f => awaiting name answer polls fun v => (next v).bind f

end Task

namespace Evaluator

variable {α β : Type} {evaluator : Evaluator} {event : Event} {failed : String → EvalError}
  {f : α → Script β}

/-- What a poll finds if a computation follows the one that is polled. -/
def andThen (poll : Poll α × Evaluator) (f : α → Script β) : Poll β × Evaluator :=
  match poll with
  | (.ready (.ok a), evaluator) => (f a).advance evaluator
  | (.ready (.error error), evaluator) => (.ready (.error error), evaluator)
  | (.pending task, evaluator) => (.pending (task.bind f), evaluator)

theorem receive_andThen {resume : Value → Evaluator → Poll α × Evaluator}
    {resume' : Value → Evaluator → Poll β × Evaluator}
    (h : ∀ v evaluator, resume' v evaluator = andThen (resume v evaluator) f) :
    evaluator.receive event failed resume' =
      andThen (evaluator.receive event failed resume) f := by
  unfold receive
  cases event.answer with
  | ok v => exact h v _
  | error message => rfl

end Evaluator

namespace Script

open Evaluator

variable {α β : Type}

theorem advance_bind (script : Script α) (f : α → Script β) (evaluator : Evaluator) :
    (script.bind f).advance evaluator = andThen (script.advance evaluator) f := by
  induction script generalizing evaluator with
  | done a => rfl
  | nullAccess key => rfl
  | lookup name next ih =>
      simp only [bind, advance]
      rcases evaluator.context.lookup name with ⟨found, after⟩
      cases found with
      | bound v => exact ih v _
      | now answer => exact receive_andThen ih
      | later resolver =>
          dsimp only
          rcases resolver.delay after.history name with _ | _ | polls
          · rfl
          · exact receive_andThen ih
          · rfl
  | known name next ih => exact ih _ evaluator
  | call name args next ih =>
      simp only [bind, advance]
      cases evaluator.context.functions.find? name with
      | none => exact ih _ evaluator
      | some f => exact receive_andThen ih

theorem runNow_apply (script : Script α) (evaluator : Evaluator) :
    script.runNow evaluator = giveUp (script.advance evaluator) := rfl

theorem runNow_pure (a : α) : (pure a : Script α).runNow = pure a := rfl

theorem runNow_bind (script : Script α) (f : α → Script β) :
    (script >>= f).runNow = script.runNow >>= fun a => (f a).runNow := by
  funext evaluator
  rw [Session.bind_apply, runNow_apply, runNow_apply]
  change giveUp ((script.bind f).advance evaluator) = _
  rw [advance_bind]
  rcases script.advance evaluator with ⟨(error | a) | task, after⟩
  · rfl
  · exact (runNow_apply (f a) after).symm
  · rfl

end Script

/-! ## Evaluators of their own -/

namespace Script

open Evaluator

variable {α β : Type} {script : Script α} {context : Context} {waiting : Option String}

theorem runNow_of_ends {outcome : Except EvalError α × Context} {after : Option String}
    (h : Ends (script.advance ⟨context, waiting⟩) outcome after) :
    script.runNow ⟨context, waiting⟩ = (outcome.1, ⟨outcome.2, after⟩) := by
  rw [runNow_apply, h]
  rfl

theorem runNow_of_pending {task : Task α} {stopped : Context} {name : String}
    (h : script.advance ⟨context, waiting⟩ = (.pending task, ⟨stopped, some name⟩)) :
    script.runNow ⟨context, waiting⟩ = (.error (.suspended name), .new stopped) := by
  rw [runNow_apply, h]
  rfl

theorem isolated_runNow_of_ends {outcome : Except EvalError α × Context} {after : Option String}
    (h : Ends (script.advance (.new context)) outcome after) :
    script.runNow.isolated context = outcome := by
  rw [Session.isolated, Evaluator.new, runNow_of_ends h]

theorem isolated_runNow_eq_run (script : Script α) {context : Context}
    (hc : ∀ resolver, context.identifiers ≠ .delayed resolver) :
    script.runNow.isolated context = script.run context :=
  isolated_runNow_of_ends (ends_advance script hc)

/-- A new evaluator is as good as new after it was used without waiting. -/
theorem runNow_new (script : Script α) (context : Context) :
    script.runNow (.new context) = ((script.runNow.isolated context).1,
      .new (script.runNow.isolated context).2) := by
  have h : ∃ result after, script.runNow (.new context) = (result, .new after) := by
    cases hi : context.identifiers with
    | delayed resolver =>
        obtain ⟨events, -, ⟨-, hends | hends⟩ | ⟨_, _, _, _, _, -, -, -, hpending⟩⟩ :=
          follows_advance script hi none
        · exact ⟨_, _, runNow_of_ends hends⟩
        · exact ⟨_, _, runNow_of_ends hends⟩
        · exact ⟨_, _, runNow_of_pending hpending⟩
    | bindings values =>
        exact ⟨_, _, runNow_of_ends (ends_advance script (by simp [hi]))⟩
    | resolver answer =>
        exact ⟨_, _, runNow_of_ends (ends_advance script (by simp [hi]))⟩
  obtain ⟨result, after, h⟩ := h
  rw [Session.isolated, h]
  rfl

theorem isolated_runNow_pure (a : α) : (pure a : Script α).runNow.isolated = pure a := rfl

theorem isolated_runNow_bind (script : Script α) (f : α → Script β) :
    (script >>= f).runNow.isolated = script.runNow.isolated >>= fun a => (f a).runNow.isolated := by
  funext context
  rw [Session.bind_apply, runNow_bind]
  conv =>
    lhs
    rw [Session.isolated, Session.bind_apply, runNow_new]
  rcases script.runNow.isolated context with ⟨error | a, after⟩
  · rfl
  · rfl

end Script

/-! ## Templates and messages -/

namespace Template

theorem renderWith_eq_runNow (template : Template) :
    template.renderWith = template.script.runNow := by
  induction template with
  | nil => rfl
  | cons segment rest ih =>
      cases segment with
      | text text =>
          simp only [renderWith, script, ih, Script.runNow_bind, Script.runNow_pure]
      | expr expr =>
          simp only [renderWith, script, ih, Expr.evaluate, Script.runNow_bind, Script.runNow_pure]

theorem render_eq_runNow (template : Template) :
    template.render = template.script.runNow.isolated := by
  rw [render, renderWith_eq_runNow]

end Template

namespace Line

theorem render_eq_runNow (line : Line) : line.render = line.script.runNow.isolated := by
  simp only [render, script, Template.render_eq_runNow, Script.isolated_runNow_bind,
    Script.isolated_runNow_pure]

theorem renderAll_eq_runNow (lines : List Line) :
    renderAll lines = (scripts lines).runNow.isolated := by
  induction lines with
  | nil => rfl
  | cons line rest ih =>
      simp only [renderAll, scripts, render_eq_runNow, ih, Script.isolated_runNow_bind,
        Script.isolated_runNow_pure]

end Line

end Guest
