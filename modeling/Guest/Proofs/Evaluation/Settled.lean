import Guest.Evaluation

/-!
# Scripts that need no host

A script settles in a context if the names that it looks up have values there and it does nothing
else.  An evaluation of it ends at the first poll, and leaves the evaluator as it was: nothing is
asked of the host and nothing is written into the log.
-/

namespace Guest
namespace Script

variable {α β : Type} {context : Context} {script : Script α} {a : α}

/-- A script comes to a result by names that have values in the context. -/
inductive Settles (context : Context) : Script α → α → Prop where
  | done (a : α) :
      Settles context (.done a) a
  | lookup {name : String} {v : Value} {next : Value → Script α} {a : α} :
      context.value? name = some v → Settles context (next v) a →
      Settles context (.lookup name next) a

theorem Settles.bind {f : α → Script β} {b : β} (h : script.Settles context a)
    (hf : (f a).Settles context b) : (script >>= f).Settles context b := by
  induction h with
  | done a => exact hf
  | lookup hv _ ih => exact .lookup hv (ih hf)

/-- The result of one script, put into that of another one. -/
theorem Settles.map {f : α → β} (h : script.Settles context a) :
    (script >>= fun a => pure (f a)).Settles context (f a) :=
  h.bind (.done (f a))

variable {evaluator : Evaluator}

theorem Settles.advance (h : script.Settles evaluator.context a) :
    script.advance evaluator = (.ready (.ok a), evaluator) := by
  induction h with
  | done a => rfl
  | lookup hv _ ih =>
      simp only [Script.advance, Context.lookup, hv]
      exact ih

theorem Settles.poll (h : script.Settles evaluator.context a) :
    (Task.running script).poll evaluator = (.ready (.ok a), evaluator) :=
  h.advance

theorem Settles.runNow (h : script.Settles evaluator.context a) :
    script.runNow evaluator = (.ok a, evaluator) := by
  rw [Script.runNow, h.poll]
  rfl

end Script
end Guest
