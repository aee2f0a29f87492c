import Guest.Proofs.Evaluation.Run

/-!
# What a poll does

A poll goes as the run does.  Against a resolver that answers at once it reaches the end; against
one that may have to be waited for it stops at the first look-up that is not answered at once, with
the exchanges before that look-up behind it, and enough further polls bring it to the end.
-/

namespace Guest

/-- How many polls an exchange that starts at a history has to be waited for. -/
def Event.delay (delay : List Event → String → Option Nat) (history : List Event) :
    Event → Option Nat
  | lookup name _ => delay history name
  | call .. => some 0

/-- No exchange has to be waited for. -/
def Prompt (delay : List Event → String → Option Nat) : List Event → List Event → Prop
  | _, [] => True
  | history, event :: rest =>
    event.delay delay history = some 0 ∧ Prompt delay (history ++ [event]) rest

namespace Script

variable {α : Type} {evaluator : Evaluator} {name : String} {next : Value → Script α}

/-! ## Single steps -/

theorem advance_lookup :
    (lookup name next).advance evaluator =
      match evaluator.context.lookup name with
      | (.bound v, context) => (next v).advance { evaluator with context := context }
      | (.now answer, context) =>
        { evaluator with context := context }.resolve name answer fun v => (next v).advance
      | (.later resolver, context) =>
        Evaluator.await name resolver.answer next (fun v => (next v).advance)
          (resolver.delay context.history name) ⟨context, some name⟩ := by
  rcases hfound : evaluator.context.lookup name with ⟨_ | _ | _, after⟩ <;>
    simp only [advance, hfound]

theorem advance_call {args : List Value} :
    (call name args next).advance evaluator =
      match evaluator.context.functions.find? name with
      | none => (next .null).advance evaluator
      | some f =>
        evaluator.receive (.call name args (f evaluator.context.history args)) (.function name)
          fun v => (next v).advance := by
  cases hfound : evaluator.context.functions.find? name <;> simp only [advance, hfound]

theorem advance_lookup_value {v : Value} (hv : evaluator.context.value? name = some v) :
    (lookup name next).advance evaluator = (next v).advance evaluator := by
  rw [advance_lookup, Context.lookup_value hv]

theorem advance_lookup_bindings {values : Fields} (hv : evaluator.context.value? name = none)
    (hi : evaluator.context.identifiers = .bindings values) :
    (lookup name next).advance evaluator =
      (next .null).advance { evaluator with context := evaluator.context.note name } := by
  rw [advance_lookup, Context.lookup_asked hv, hi]
  rfl

theorem advance_lookup_resolver {answer : Resolver} (hv : evaluator.context.value? name = none)
    (hi : evaluator.context.identifiers = .resolver answer) :
    (lookup name next).advance evaluator =
      { evaluator with context := evaluator.context.note name }.resolve name answer
        fun v => (next v).advance := by
  rw [advance_lookup, Context.lookup_asked hv, hi]
  rfl

theorem advance_lookup_delayed {resolver : DelayedResolver}
    (hv : evaluator.context.value? name = none)
    (hi : evaluator.context.identifiers = .delayed resolver) :
    (lookup name next).advance evaluator =
      Evaluator.await name resolver.answer next (fun v => (next v).advance)
        (resolver.delay evaluator.context.history name)
        ⟨evaluator.context.note name, some name⟩ := by
  rw [advance_lookup, Context.lookup_asked hv, hi]
  rfl

theorem advance_call_missing {args : List Value}
    (hf : evaluator.context.functions.find? name = none) :
    (call name args next).advance evaluator = (next .null).advance evaluator := by
  rw [advance_call, hf]

theorem advance_call_found {args : List Value} {f : HostFunction}
    (hf : evaluator.context.functions.find? name = some f) :
    (call name args next).advance evaluator =
      evaluator.receive (.call name args (f evaluator.context.history args)) (.function name)
        fun v => (next v).advance := by
  rw [advance_call, hf]

end Script

namespace Evaluator

variable {α : Type} {context : Context} {waiting : Option String} {event : Event}
  {failed : String → EvalError} {resume : Value → Evaluator → Poll α × Evaluator}
  {resume' : Value → Context → Except EvalError α × Context}

/-! ## Polls that reach the end -/

/-- A poll has ended as a run does. -/
def Ends (poll : Poll α × Evaluator) (outcome : Except EvalError α × Context)
    (waiting : Option String) : Prop :=
  poll = (.ready outcome.1, ⟨outcome.2, waiting⟩)

theorem ends_receive
    (h : ∀ v, Ends (resume v ⟨context.record event, waiting⟩) (resume' v (context.record event))
      waiting) :
    Ends (receive event failed resume ⟨context, waiting⟩) (context.receive event failed resume')
      waiting := by
  unfold receive Context.receive
  cases event.answer with
  | ok v => exact h v
  | error message => rfl

/-- Without a resolver that has to be waited for, one poll is the run. -/
theorem ends_advance (script : Script α) {context : Context}
    (hc : ∀ resolver, context.identifiers ≠ .delayed resolver) :
    Ends (script.advance ⟨context, waiting⟩) (script.run context) waiting := by
  induction script generalizing context with
  | done a => rfl
  | nullAccess key => rfl
  | lookup name next ih =>
      cases hv : context.value? name with
      | some v =>
          rw [Script.advance_lookup_value hv, Script.run_lookup_value hv]
          exact ih v hc
      | none =>
          cases hi : context.identifiers with
          | bindings values =>
              rw [Script.advance_lookup_bindings hv hi, Script.run_lookup_bindings hv hi]
              exact ih .null hc
          | resolver answer =>
              rw [Script.advance_lookup_resolver hv hi, Script.run_lookup_resolver hv hi]
              exact ends_receive fun v => ih v hc
          | delayed resolver => exact absurd hi (hc resolver)
  | known name next ih => exact ih _ hc
  | call name args next ih =>
      cases hf : context.functions.find? name with
      | none =>
          rw [Script.advance_call_missing hf, Script.run_call_missing hf]
          exact ih .null hc
      | some f =>
          rw [Script.advance_call_found hf, Script.run_call_found hf]
          exact ends_receive fun v => ih v hc

/-! ## Polls that may stop on the way -/

/-- A poll from a context goes as a run does, up to the first look-up that has to be waited
for. -/
def Follows (delay : List Event → String → Option Nat) (context : Context)
    (waiting : Option String) (outcome : Except EvalError α × Context)
    (poll : Poll α × Evaluator) : Prop :=
  ∃ events, outcome.2 = context.replay events ∧
    ((Prompt delay context.history events ∧
        (Ends poll outcome waiting ∨ Ends poll outcome none)) ∨
      ∃ before name answer after task, events = before ++ .lookup name answer :: after ∧
        Prompt delay context.history before ∧
        delay (context.history ++ before) name ≠ some 0 ∧
        poll = (.pending task, ⟨(context.replay before).note name, some name⟩))

variable {delay : List Event → String → Option Nat} {before : Context}

theorem follows_of_ends {outcome : Except EvalError α × Context} {poll : Poll α × Evaluator}
    (hprompt : event.delay delay context.history = some 0)
    (houtcome : outcome.2 = context.exchange event)
    (h : Ends poll outcome waiting ∨ Ends poll outcome none) :
    Follows delay context waiting outcome poll :=
  ⟨[event], houtcome, .inl ⟨⟨hprompt, trivial⟩, h⟩⟩

/-- What follows a run behind an exchange that has not to be waited for follows it in front of the
exchange. -/
theorem follows_of_exchange {outcome : Except EvalError α × Context} {poll : Poll α × Evaluator}
    (hprompt : event.delay delay context.history = some 0)
    (h : Follows delay (context.exchange event) waiting outcome poll) :
    Follows delay context waiting outcome poll := by
  obtain ⟨events, houtcome, h⟩ := h
  simp only [Context.exchange_history] at h
  refine ⟨event :: events, houtcome, ?_⟩
  obtain ⟨hrest, hends⟩ | ⟨before, name, answer, after, task, rfl, hbefore, hdelay, hpoll⟩ := h
  · exact .inl ⟨⟨hprompt, hrest⟩, hends⟩
  · refine .inr ⟨event :: before, name, answer, after, task, rfl, ⟨hprompt, hbefore⟩, ?_, hpoll⟩
    simpa using hdelay

theorem follows_receive (hprompt : event.delay delay context.history = some 0)
    (hbefore : before.record event = context.exchange event)
    (h : ∀ v, Follows delay (context.exchange event) waiting
      (resume' v (context.exchange event)) (resume v ⟨context.exchange event, waiting⟩)) :
    Follows delay context waiting (before.receive event failed resume')
      (receive event failed resume ⟨before, waiting⟩) := by
  unfold receive Context.receive
  rw [hbefore]
  cases event.answer with
  | ok v => exact follows_of_exchange hprompt (h v)
  | error message => exact follows_of_ends hprompt rfl (.inl rfl)

theorem follows_none {outcome : Except EvalError α × Context} {poll : Poll α × Evaluator}
    (h : Follows delay context none outcome poll) : Follows delay context waiting outcome poll := by
  obtain ⟨events, houtcome, ⟨hprompt, hends⟩ | hstops⟩ := h
  · refine ⟨events, houtcome, .inl ⟨hprompt, .inr ?_⟩⟩
    rcases hends with hends | hends <;> exact hends
  · exact ⟨events, houtcome, .inr hstops⟩

/-- A poll that stops at its first look-up. -/
theorem follows_pending {name : String} {answer : Except String Value} {task : Task α}
    {outcome : Except EvalError α × Context} (hdelay : delay context.history name ≠ some 0)
    (houtcome : ∃ events, outcome.2 = context.replay (.lookup name answer :: events)) :
    Follows delay context waiting outcome (.pending task, ⟨context.note name, some name⟩) := by
  obtain ⟨events, houtcome⟩ := houtcome
  refine ⟨_, houtcome, .inr ⟨[], name, answer, events, task, rfl, trivial, ?_, rfl⟩⟩
  simpa using hdelay

/-- Against a resolver that may have to be waited for, one poll follows the run. -/
theorem follows_advance (script : Script α) {context : Context} {resolver : DelayedResolver}
    (hc : context.identifiers = .delayed resolver) (waiting : Option String) :
    Follows resolver.delay context waiting (script.run context)
      (script.advance ⟨context, waiting⟩) := by
  induction script generalizing context waiting with
  | done a => exact ⟨[], rfl, .inl ⟨trivial, .inl rfl⟩⟩
  | nullAccess key => exact ⟨[], rfl, .inl ⟨trivial, .inl rfl⟩⟩
  | lookup name next ih =>
      cases hv : context.value? name with
      | some v =>
          rw [Script.advance_lookup_value hv, Script.run_lookup_value hv]
          exact ih v hc waiting
      | none =>
          rw [Script.advance_lookup_delayed hv hc, Script.run_lookup_delayed hv hc]
          have hpending : ∀ task : Task α, resolver.delay context.history name ≠ some 0 →
              Follows resolver.delay context waiting
                ((context.note name).resolve name resolver.answer fun v => (next v).run)
                (.pending task, ⟨context.note name, some name⟩) := by
            intro task hdelay
            have hsource : ∀ values, context.identifiers ≠ .bindings values := by simp [hc]
            exact follows_pending hdelay
              (Context.receive_replay rfl fun v => Script.run_replay (next v) hsource)
          cases hdelay : resolver.delay context.history name with
          | none => exact hpending _ (by simp [hdelay])
          | some polls =>
              cases polls with
              | zero =>
                  exact follows_none (follows_receive hdelay rfl fun v =>
                    ih v (Context.exchange_identifiers.trans hc) none)
              | succ polls => exact hpending _ (by simp [hdelay])
  | known name next ih => exact ih _ hc waiting
  | call name args next ih =>
      cases hf : context.functions.find? name with
      | none =>
          rw [Script.advance_call_missing hf, Script.run_call_missing hf]
          exact ih .null hc waiting
      | some f =>
          rw [Script.advance_call_found hf, Script.run_call_found hf]
          exact follows_receive rfl rfl fun v =>
            ih v (Context.exchange_identifiers.trans hc) waiting

/-! ## Polls without number -/

/-- What polling on finds, with a bound for how often the evaluation may be found waiting. -/
def conclude (patience : Nat) : Poll α × Evaluator → Option (Except EvalError α) × Evaluator
  | (.ready result, evaluator) => (some result, evaluator)
  | (.pending task, evaluator) =>
    match patience with
    | 0 => (none, evaluator)
    | patience + 1 => task.block patience evaluator

theorem block_eq {patience : Nat} {task : Task α} {evaluator : Evaluator} :
    task.block patience evaluator = conclude patience (task.poll evaluator) := by
  rw [Task.block]
  rcases task.poll evaluator with ⟨result | task, evaluator⟩
  · rfl
  · rfl

theorem block_running {patience : Nat} {script : Script α} {evaluator : Evaluator} :
    (Task.running script).block patience evaluator =
      conclude patience (script.advance evaluator) :=
  block_eq

/-- Polling on often enough ends as a run does. -/
def Completes (poll : Poll α × Evaluator) (outcome : Except EvalError α × Context) : Prop :=
  ∃ count, ∀ patience, count ≤ patience →
    ∃ waiting, conclude patience poll = (some outcome.1, ⟨outcome.2, waiting⟩)

theorem completes_of_ends {outcome : Except EvalError α × Context} {poll : Poll α × Evaluator}
    (h : Ends poll outcome waiting) : Completes poll outcome := by
  refine ⟨0, fun patience _ => ⟨waiting, ?_⟩⟩
  rw [h]
  rfl

theorem completes_receive (hbefore : before.record event = context.exchange event)
    (h : ∀ v, Completes (resume v ⟨context.exchange event, waiting⟩)
      (resume' v (context.exchange event))) :
    Completes (receive event failed resume ⟨before, waiting⟩)
      (before.receive event failed resume') := by
  unfold receive Context.receive
  rw [hbefore]
  cases event.answer with
  | ok v => exact h v
  | error message => exact completes_of_ends rfl

theorem completes_pending {outcome : Except EvalError α × Context} {task : Task α}
    {evaluator : Evaluator} (h : Completes (task.poll evaluator) outcome) :
    Completes (.pending task, evaluator) outcome := by
  obtain ⟨count, h⟩ := h
  refine ⟨count + 1, fun patience hpatience => ?_⟩
  obtain ⟨more, rfl⟩ := Nat.exists_eq_add_of_le' hpatience
  obtain ⟨waiting, hconclude⟩ := h (more + count) (by omega)
  exact ⟨waiting, block_eq.trans hconclude⟩

/-- Each poll in vain brings the answer of a resolver closer. -/
theorem completes_await {outcome : Except EvalError α × Context} {name : String}
    {answer : Resolver} {next : Value → Script α} {polls : Nat}
    (h : Completes (resolve name answer (fun v => (next v).advance) ⟨context, none⟩) outcome) :
    Completes (await name answer next (fun v => (next v).advance) (some polls)
      ⟨context, waiting⟩) outcome := by
  induction polls with
  | zero => exact h
  | succ polls ih => exact completes_pending ih

/-- Against a resolver each of whose answers comes after some polls, polling on ends as the run
does. -/
theorem completes_advance (script : Script α) {context : Context} {resolver : DelayedResolver}
    (hc : context.identifiers = .delayed resolver)
    (hfinite : ∀ history name, ∃ polls, resolver.delay history name = some polls)
    (waiting : Option String) :
    Completes (script.advance ⟨context, waiting⟩) (script.run context) := by
  induction script generalizing context waiting with
  | done a => exact completes_of_ends rfl
  | nullAccess key => exact completes_of_ends rfl
  | lookup name next ih =>
      cases hv : context.value? name with
      | some v =>
          rw [Script.advance_lookup_value hv, Script.run_lookup_value hv]
          exact ih v hc waiting
      | none =>
          rw [Script.advance_lookup_delayed hv hc, Script.run_lookup_delayed hv hc]
          obtain ⟨polls, hpolls⟩ := hfinite context.history name
          rw [hpolls]
          exact completes_await (completes_receive rfl fun v =>
            ih v (Context.exchange_identifiers.trans hc) none)
  | known name next ih => exact ih _ hc waiting
  | call name args next ih =>
      cases hf : context.functions.find? name with
      | none =>
          rw [Script.advance_call_missing hf, Script.run_call_missing hf]
          exact ih .null hc waiting
      | some f =>
          rw [Script.advance_call_found hf, Script.run_call_found hf]
          exact completes_receive rfl fun v =>
            ih v (Context.exchange_identifiers.trans hc) waiting

end Evaluator

end Guest
