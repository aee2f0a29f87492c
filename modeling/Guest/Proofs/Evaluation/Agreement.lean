import Guest.Proofs.Evaluation.Sessions

/-!
# Agreement of evaluations with and without waiting

One walk through a tree is driven in two ways: it is polled until it ends, or it is polled once and
given up where it waits.  Whatever the schedule of the answers is, both ways make the exchanges of
the run against a resolver that answers at once, or a first part of them.
-/

namespace Guest

namespace Context

/-- The context with a resolver whose answers come after a delay. -/
def delayed (context : Context) (delay : List Event → String → Option Nat) (answer : Resolver) :
    Context :=
  context.withIdentifiers (.delayed ⟨delay, answer⟩)

/-- The context with a resolver that answers at once. -/
def prompt (context : Context) (answer : Resolver) : Context :=
  context.withIdentifiers (.resolver answer)

/-- The same exchanges were made and the same names were logged. -/
def SameRecord (context other : Context) : Prop :=
  context.history = other.history ∧ context.usage = other.usage

end Context

/-! ## The delay is nothing to a run -/

namespace Script

open Context

variable {α : Type} {context : Context} {answer : Resolver} {event : Event}
  {delay : List Event → String → Option Nat} {failed : String → EvalError}

/-- Two outcomes differ in the delay of the resolver alone. -/
def Redelayed (delay : List Event → String → Option Nat) (answer : Resolver)
    (outcome other : Except EvalError α × Context) : Prop :=
  other = (outcome.1, outcome.2.delayed delay answer)

theorem redelayed_receive {resume resume' : Value → Context → Except EvalError α × Context}
    (h : ∀ v, Redelayed delay answer (resume v (context.record event))
      (resume' v ((context.record event).delayed delay answer))) :
    Redelayed delay answer (context.receive event failed resume)
      ((context.delayed delay answer).receive event failed resume') := by
  unfold receive
  cases event.answer with
  | ok v => exact h v
  | error message => rfl

theorem redelayed_run (script : Script α) {context : Context}
    (hc : context.identifiers = .resolver answer) :
    Redelayed delay answer (script.run context) (script.run (context.delayed delay answer)) := by
  induction script generalizing context with
  | done a => rfl
  | nullAccess key => rfl
  | lookup name next ih =>
      have hvalue : (context.delayed delay answer).value? name = context.value? name := by
        simp [value?, delayed, withIdentifiers, hc]
      cases hv : context.value? name with
      | some v =>
          rw [run_lookup_value hv, run_lookup_value (hvalue.trans hv)]
          exact ih v hc
      | none =>
          rw [run_lookup_resolver hv hc, run_lookup_delayed (hvalue.trans hv) rfl]
          exact redelayed_receive fun v => ih v hc
  | known name next ih => exact ih _ hc
  | call name args next ih =>
      cases hf : context.functions.find? name with
      | none =>
          rw [run_call_missing hf, run_call_missing (by exact hf)]
          exact ih .null hc
      | some f =>
          rw [run_call_found hf, run_call_found (by exact hf)]
          exact redelayed_receive fun v => ih v hc

theorem run_delayed (script : Script α) (context : Context) (answer : Resolver)
    (delay : List Event → String → Option Nat) :
    script.run (context.delayed delay answer) =
      ((script.run (context.prompt answer)).1,
        (script.run (context.prompt answer)).2.delayed delay answer) := by
  have hc : (context.prompt answer).identifiers = .resolver answer := rfl
  exact redelayed_run script hc

end Script

/-! ## What an evaluator was suspended on is nothing to it -/

namespace Evaluator

variable {α : Type} {context : Context} {first second : Option String} {event : Event}
  {failed : String → EvalError} {resume : Value → Evaluator → Poll α × Evaluator}

/-- Two polls are the same, or they have ended alike. -/
def Alike (poll other : Poll α × Evaluator) : Prop :=
  poll = other ∨ poll.1 = other.1 ∧ poll.2.context = other.2.context ∧
    ∃ result, other.1 = .ready result

theorem alike_receive
    (h : ∀ v, Alike (resume v ⟨context.record event, first⟩)
      (resume v ⟨context.record event, second⟩)) :
    Alike (receive event failed resume ⟨context, first⟩)
      (receive event failed resume ⟨context, second⟩) := by
  unfold receive
  cases event.answer with
  | ok v => exact h v
  | error message => exact .inr ⟨rfl, rfl, _, rfl⟩

theorem alike_advance (script : Script α) (context : Context) :
    Alike (script.advance ⟨context, first⟩) (script.advance ⟨context, second⟩) := by
  induction script generalizing context with
  | done a => exact .inr ⟨rfl, rfl, _, rfl⟩
  | nullAccess key => exact .inr ⟨rfl, rfl, _, rfl⟩
  | lookup name next ih =>
      simp only [Script.advance]
      rcases context.lookup name with ⟨found, after⟩
      cases found with
      | bound v => exact ih v after
      | now answer => exact alike_receive fun v => ih v _
      | later resolver => exact .inl rfl
  | known name next ih => exact ih _ context
  | call name args next ih =>
      simp only [Script.advance]
      cases context.functions.find? name with
      | none => exact ih _ context
      | some f => exact alike_receive fun v => ih v _

theorem alike_giveUp {poll other : Poll α × Evaluator} (h : Alike poll other) :
    (giveUp poll).1 = (giveUp other).1 ∧ (giveUp poll).2.context = (giveUp other).2.context := by
  rcases poll with ⟨found, ⟨context, first⟩⟩
  rcases other with ⟨_, ⟨_, second⟩⟩
  obtain heq | ⟨rfl, rfl, result, rfl⟩ := h
  · rw [heq]
    exact ⟨rfl, rfl⟩
  · exact ⟨rfl, rfl⟩

theorem alike_conclude {poll other : Poll α × Evaluator} {patience : Nat}
    (h : Alike poll other) :
    (conclude patience poll).1 = (conclude patience other).1 ∧
      (conclude patience poll).2.context = (conclude patience other).2.context := by
  rcases poll with ⟨found, ⟨context, first⟩⟩
  rcases other with ⟨_, ⟨_, second⟩⟩
  obtain heq | ⟨rfl, rfl, result, rfl⟩ := h
  · rw [heq]
    exact ⟨rfl, rfl⟩
  · exact ⟨rfl, rfl⟩

end Evaluator

/-- An evaluator evaluates as a new one does over the same context, without waiting and by polls,
whatever it was suspended on before; and a new one is left as new without waiting. -/
structure Reusable {α : Type} (session : Session Evaluator α) (script : Script α) : Prop where
  now : ∀ evaluator : Evaluator,
    (session evaluator).1 = (session (.new evaluator.context)).1 ∧
      (session evaluator).2.context = (session (.new evaluator.context)).2.context
  later : ∀ (evaluator : Evaluator) (patience : Nat),
    let task := Task.running script
    (task.block patience evaluator).1 = (task.block patience (.new evaluator.context)).1 ∧
      (task.block patience evaluator).2.context =
        (task.block patience (.new evaluator.context)).2.context
  renewed : ∀ context : Context,
    (session (.new context)).2 = Evaluator.new (session (.new context)).2.context

theorem reusable {α : Type} (script : Script α) : Reusable script.runNow script where
  now evaluator := Evaluator.alike_giveUp (Evaluator.alike_advance script evaluator.context)
  later evaluator patience := by
    dsimp only
    rw [Evaluator.block_running, Evaluator.block_running]
    exact Evaluator.alike_conclude (Evaluator.alike_advance script evaluator.context)
  renewed context := by
    rw [Script.runNow_new script context]
    rfl

/-! ## Agreement -/

/-- An evaluation without waiting and one by polls agree.  If the answers of a resolver come after
any numbers of polls, polling on ends with the result and the record of the evaluation to which
they come at once.  Without waiting either no answer is late, and then nothing differs; or the
evaluation is suspended at the first look-up whose answer is late, with the exchanges before that
look-up made and the names up to it logged. -/
structure Agreement {α : Type} (session : Session Context α) (script : Script α) : Prop where
  completes : ∀ (context : Context) (answer : Resolver) (polls : List Event → String → Nat),
    let expected := session (context.prompt answer)
    ∃ count, ∀ patience, count ≤ patience →
      let found := (Task.running script).block patience
        (.new (context.delayed (fun history name => some (polls history name)) answer))
      found.1 = some expected.1 ∧ found.2.context.SameRecord expected.2
  suspends : ∀ (context : Context) (answer : Resolver) (delay : List Event → String → Option Nat),
    let expected := session (context.prompt answer)
    let found := session (context.delayed delay answer)
    ∃ events, expected.2.history = context.history ++ events ∧
      ((Prompt delay context.history events ∧
          found.1 = expected.1 ∧ found.2.SameRecord expected.2) ∨
        ∃ before name result after, events = before ++ .lookup name result :: after ∧
          Prompt delay context.history before ∧ delay (context.history ++ before) name ≠ some 0 ∧
          found.1 = .error (.suspended name) ∧
          found.2.history = context.history ++ before ∧
          found.2.usage =
            (context.noteAll (before.filterMap Event.lookedUp? ++ [name])).usage)

namespace Script

open Context Evaluator

variable {α : Type} {script : Script α} {context : Context} {answer : Resolver}
  {delay : List Event → String → Option Nat}

theorem isolated_runNow_of_pending {task : Task α} {stopped : Context} {name : String}
    (h : script.advance (.new context) = (.pending task, ⟨stopped, some name⟩)) :
    script.runNow.isolated context = (.error (.suspended name), stopped) := by
  rw [Session.isolated, Evaluator.new, runNow_of_pending h]
  rfl

theorem isolated_runNow_prompt (script : Script α) (context : Context) (answer : Resolver) :
    script.runNow.isolated (context.prompt answer) = script.run (context.prompt answer) :=
  isolated_runNow_eq_run script (by simp [prompt, withIdentifiers])

theorem note_usage_replay {before : List Event} {name : String} :
    (((context.delayed delay answer).replay before).note name).usage =
      (context.noteAll (before.filterMap Event.lookedUp? ++ [name])).usage := by
  have hdelayed : (context.delayed delay answer).SameLog context := ⟨rfl, rfl⟩
  have hbefore := sameLog_replay.trans
    (sameLog_noteAll hdelayed (before.filterMap Event.lookedUp?))
  rw [noteAll, List.foldl_append, ← noteAll]
  exact (sameLog_note hbefore).1

theorem completes (script : Script α) (context : Context) (answer : Resolver)
    (polls : List Event → String → Nat) :
    let patient := context.delayed (fun history name => some (polls history name)) answer
    Completes (script.advance (.new patient)) (script.run patient) := by
  intro patient
  refine completes_advance script rfl ?_ none
  intro history name
  exact ⟨polls history name, rfl⟩

theorem agreement (script : Script α) : Agreement script.runNow.isolated script where
  completes context answer polls := by
    obtain ⟨count, hcount⟩ := completes script context answer polls
    refine ⟨count, fun patience hpatience => ?_⟩
    obtain ⟨waiting, hconclude⟩ := hcount patience hpatience
    dsimp only
    rw [isolated_runNow_prompt, block_running, hconclude, run_delayed]
    exact ⟨rfl, rfl, rfl⟩
  suspends context answer delay := by
    dsimp only
    rw [isolated_runNow_prompt]
    have hrun := run_delayed script context answer delay
    obtain ⟨events, houtcome, h⟩ := follows_advance script
      (show (context.delayed delay answer).identifiers = .delayed ⟨delay, answer⟩ from rfl) none
    have hhistory : (script.run (context.prompt answer)).2.history = context.history ++ events := by
      have hreplay : _ = (context.delayed delay answer).history ++ events :=
        (congrArg Context.history houtcome).trans replay_history
      rw [hrun] at hreplay
      exact hreplay
    refine ⟨events, hhistory, ?_⟩
    obtain ⟨hprompt, hends⟩ |
      ⟨before, name, result, after, task, hevents, hprompt, hdelay, hpending⟩ := h
    · left
      have hfound : script.runNow.isolated (context.delayed delay answer) =
          script.run (context.delayed delay answer) := by
        rcases hends with hends | hends <;> exact isolated_runNow_of_ends hends
      rw [hfound, hrun]
      exact ⟨hprompt, rfl, rfl, rfl⟩
    · right
      rw [isolated_runNow_of_pending hpending]
      refine ⟨before, name, result, after, hevents, hprompt, hdelay, rfl, ?_, note_usage_replay⟩
      exact replay_history

end Script

/-- Evaluations without waiting and by polls agree for all expressions, unions of types, templates
and messages; and an evaluator of expressions or types can be used again. -/
theorem evaluations_agree :
    (∀ e : Expr, Agreement e.evaluate.isolated e.script ∧ Reusable e.evaluate e.script) ∧
    (∀ union : TypeUnion,
      Agreement union.evaluate.isolated union.script ∧ Reusable union.evaluate union.script) ∧
    (∀ template : Template, Agreement template.render template.script) ∧
    (∀ line : Line, Agreement line.render line.script) ∧
    (∀ lines : List Line, Agreement (Line.renderAll lines) (Line.scripts lines)) := by
  refine ⟨fun e => ⟨e.script.agreement, reusable e.script⟩,
    fun union => ⟨union.script.agreement, reusable union.script⟩, ?_, ?_, ?_⟩
  · intro template
    rw [Template.render_eq_runNow]
    exact template.script.agreement
  · intro line
    rw [Line.render_eq_runNow]
    exact line.script.agreement
  · intro lines
    rw [Line.renderAll_eq_runNow]
    exact (Line.scripts lines).agreement

end Guest
