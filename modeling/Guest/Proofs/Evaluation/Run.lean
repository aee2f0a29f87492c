import Guest.Evaluation

/-!
# Runs without waiting

`Script.run` takes every answer of the host at once, also that of a resolver that has to be waited
for.  It is what all ways to drive an evaluation are compared with.  A run only adds to the record
of exchanges and to the log, and the run of one script after another is one run after another.
-/

namespace Guest

namespace Context

/-- Records an exchange and goes on with the answer of the host. -/
def receive {α : Type} (event : Event) (failed : String → EvalError)
    (resume : Value → Context → Except EvalError α × Context) (context : Context) :
    Except EvalError α × Context :=
  match event.answer with
  | .ok v => resume v (context.record event)
  | .error message => (.error (failed message), context.record event)

/-- Asks a resolver for a name, and goes on with its answer. -/
def resolve {α : Type} (name : String) (answer : Resolver)
    (resume : Value → Context → Except EvalError α × Context) (context : Context) :
    Except EvalError α × Context :=
  context.receive (.lookup name (answer context.history name)) (.resolver name) resume

theorem lookup_value {context : Context} {name : String} {v : Value}
    (hv : context.value? name = some v) : context.lookup name = (.bound v, context) := by
  rw [lookup, hv]

theorem lookup_asked {context : Context} {name : String} (hv : context.value? name = none) :
    context.lookup name = (context.identifiers.lookup, context.note name) := by
  rw [lookup, hv]

end Context

namespace Script

variable {α β : Type}

/-- The run of a script to which every answer is given at once. -/
def run : Script α → Context → Except EvalError α × Context
  | done a, context => (.ok a, context)
  | nullAccess key, context => (.error (.nullAccess key), context)
  | lookup name next, context =>
    match context.lookup name with
    | (.bound v, context) => (next v).run context
    | (.now answer, context) => context.resolve name answer fun v => (next v).run
    | (.later resolver, context) => context.resolve name resolver.answer fun v => (next v).run
  | known name next, context => (next (context.functions.find? name).isSome).run context
  | call name args next, context =>
    match context.functions.find? name with
    | none => (next .null).run context
    | some f =>
      context.receive (.call name args (f context.history args)) (.function name)
        fun v => (next v).run

/-! ## Looking names up -/

section

variable {α : Type} {context : Context} {name : String} {next : Value → Script α}

theorem run_lookup :
    (lookup name next).run context =
      match context.lookup name with
      | (.bound v, context) => (next v).run context
      | (.now answer, context) => context.resolve name answer fun v => (next v).run
      | (.later resolver, context) => context.resolve name resolver.answer fun v => (next v).run := by
  rw [run]

theorem run_call {args : List Value} :
    (call name args next).run context =
      match context.functions.find? name with
      | none => (next .null).run context
      | some f =>
        context.receive (.call name args (f context.history args)) (.function name)
          fun v => (next v).run := by
  rw [run]

theorem run_lookup_value {v : Value} (hv : context.value? name = some v) :
    (lookup name next).run context = (next v).run context := by
  rw [run_lookup, Context.lookup_value hv]

theorem run_lookup_bindings {values : Fields} (hv : context.value? name = none)
    (hi : context.identifiers = .bindings values) :
    (lookup name next).run context = (next .null).run (context.note name) := by
  rw [run_lookup, Context.lookup_asked hv, hi]
  rfl

theorem run_lookup_resolver {answer : Resolver} (hv : context.value? name = none)
    (hi : context.identifiers = .resolver answer) :
    (lookup name next).run context =
      (context.note name).resolve name answer fun v => (next v).run := by
  rw [run_lookup, Context.lookup_asked hv, hi]
  rfl

theorem run_lookup_delayed {resolver : DelayedResolver} (hv : context.value? name = none)
    (hi : context.identifiers = .delayed resolver) :
    (lookup name next).run context =
      (context.note name).resolve name resolver.answer fun v => (next v).run := by
  rw [run_lookup, Context.lookup_asked hv, hi]
  rfl

theorem run_call_missing {args : List Value} (hf : context.functions.find? name = none) :
    (call name args next).run context = (next .null).run context := by
  rw [run_call, hf]

theorem run_call_found {args : List Value} {f : HostFunction}
    (hf : context.functions.find? name = some f) :
    (call name args next).run context =
      context.receive (.call name args (f context.history args)) (.function name)
        fun v => (next v).run := by
  rw [run_call, hf]

end

end Script

/-! ## Scripts are lawful -/

namespace Script

variable {α β γ : Type}

theorem bind_assoc (script : Script α) (f : α → Script β) (g : β → Script γ) :
    (script.bind f).bind g = script.bind fun a => (f a).bind g := by
  induction script with
  | done a => rfl
  | nullAccess key => rfl
  | lookup name next ih => exact congrArg (lookup name) (funext ih)
  | known name next ih => exact congrArg (known name) (funext ih)
  | call name args next ih => exact congrArg (call name args) (funext ih)

theorem bind_done (script : Script α) : script.bind done = script := by
  induction script with
  | done a => rfl
  | nullAccess key => rfl
  | lookup name next ih => exact congrArg (lookup name) (funext ih)
  | known name next ih => exact congrArg (known name) (funext ih)
  | call name args next ih => exact congrArg (call name args) (funext ih)

instance : LawfulMonad Script :=
  LawfulMonad.mk' Script bind_done (fun _ _ => rfl) bind_assoc

end Script

/-! ## One run after another -/

namespace Context

variable {α β : Type} {context : Context} {event : Event} {failed : String → EvalError}

/-- Goes on with the result of a run, unless it failed. -/
def andThen (outcome : Except EvalError α × Context)
    (next : α → Context → Except EvalError β × Context) : Except EvalError β × Context :=
  match outcome with
  | (.ok a, context) => next a context
  | (.error error, context) => (.error error, context)

theorem receive_andThen {resume : Value → Context → Except EvalError α × Context}
    {next : α → Context → Except EvalError β × Context} :
    andThen (context.receive event failed resume) next =
      context.receive event failed fun v context => andThen (resume v context) next := by
  unfold receive
  cases event.answer with
  | ok v => rfl
  | error message => rfl

theorem receive_congr {resume resume' : Value → Context → Except EvalError α × Context}
    (h : ∀ v context, resume v context = resume' v context) :
    context.receive event failed resume = context.receive event failed resume' := by
  have hresume : resume = resume' := funext fun v => funext fun context => h v context
  rw [hresume]

end Context

namespace Script

open Context

variable {α β : Type}

theorem run_bind (script : Script α) (f : α → Script β) (context : Context) :
    (script.bind f).run context = andThen (script.run context) fun a => (f a).run := by
  induction script generalizing context with
  | done a => rfl
  | nullAccess key => rfl
  | lookup name next ih =>
      simp only [bind, run]
      rcases context.lookup name with ⟨found, after⟩
      cases found with
      | bound v => exact ih v after
      | now answer => exact (receive_congr ih).trans receive_andThen.symm
      | later resolver => exact (receive_congr ih).trans receive_andThen.symm
  | known name next ih => exact ih _ context
  | call name args next ih =>
      simp only [bind, run]
      cases context.functions.find? name with
      | none => exact ih _ context
      | some f => exact (receive_congr ih).trans receive_andThen.symm

end Script

/-! ## What a run adds -/

namespace Event

/-- The name that was looked up. -/
def lookedUp? : Event → Option String
  | lookup name _ => some name
  | call .. => none

end Event

namespace Context

variable {context : Context} {name : String} {event : Event} {events more : List Event}
  {answer : Resolver}

/-- The context after an exchange; a name that is looked up is noted. -/
def exchange (context : Context) : Event → Context
  | .lookup name answer => (context.note name).record (.lookup name answer)
  | .call name args answer => context.record (.call name args answer)

/-- The context after exchanges. -/
def replay (context : Context) (events : List Event) : Context := events.foldl exchange context

/-- The context after noting names. -/
def noteAll (context : Context) (names : List String) : Context := names.foldl note context

theorem exchange_history : (context.exchange event).history = context.history ++ [event] := by
  cases event <;> rfl

theorem exchange_identifiers : (context.exchange event).identifiers = context.identifiers := by
  cases event <;> rfl

theorem replay_history : (context.replay events).history = context.history ++ events := by
  induction events generalizing context with
  | nil => simp [replay]
  | cons event events ih =>
      rw [replay, List.foldl_cons, ← replay, ih, exchange_history]
      simp

/-- Two contexts keep the same log. -/
def SameLog (context other : Context) : Prop :=
  context.usage = other.usage ∧ context.seen = other.seen

/-- Noting depends on the log alone. -/
theorem sameLog_note {other : Context} (h : context.SameLog other) :
    (context.note name).SameLog (other.note name) := by
  obtain ⟨husage, hseen⟩ := h
  simp only [SameLog, note, husage, hseen, and_self]

theorem sameLog_noteAll {other : Context} (h : context.SameLog other) (names : List String) :
    (context.noteAll names).SameLog (other.noteAll names) := by
  induction names generalizing context other with
  | nil => exact h
  | cons name names ih => exact ih (sameLog_note h)

theorem SameLog.trans {middle other : Context} (h : context.SameLog middle)
    (h' : middle.SameLog other) : context.SameLog other :=
  ⟨h.1.trans h'.1, h.2.trans h'.2⟩

/-- Exchanges write the names that are looked up into the log. -/
theorem sameLog_replay :
    (context.replay events).SameLog (context.noteAll (events.filterMap Event.lookedUp?)) := by
  induction events generalizing context with
  | nil => exact ⟨rfl, rfl⟩
  | cons event events ih =>
      have hrest : (context.replay (event :: events)).SameLog
          ((context.exchange event).noteAll (events.filterMap Event.lookedUp?)) := ih
      cases event with
      | lookup name answer =>
          have hnote : (context.exchange (.lookup name answer)).SameLog (context.note name) :=
            ⟨rfl, rfl⟩
          exact hrest.trans (sameLog_noteAll hnote _)
      | call name args answer =>
          have hkeep : (context.exchange (.call name args answer)).SameLog context := ⟨rfl, rfl⟩
          exact hrest.trans (sameLog_noteAll hkeep _)

theorem exists_replay {after : Context} (h : ∃ events, after = context.replay (event :: events)) :
    ∃ events, after = context.replay events := by
  obtain ⟨events, hevents⟩ := h
  exact ⟨event :: events, hevents⟩

theorem receive_replay {α : Type} {before : Context} {failed : String → EvalError}
    {resume : Value → Context → Except EvalError α × Context}
    (hbefore : before.record event = context.exchange event)
    (h : ∀ v, ∃ events,
      (resume v (context.exchange event)).2 = (context.exchange event).replay events) :
    ∃ events, (before.receive event failed resume).2 = context.replay (event :: events) := by
  unfold receive
  rw [hbefore]
  cases event.answer with
  | ok v => exact h v
  | error message => exact ⟨[], rfl⟩

end Context

namespace Script

open Context

variable {α : Type}

/-- If all names that are not constants are left to a resolver, a run only makes exchanges. -/
theorem run_replay (script : Script α) {context : Context}
    (hc : ∀ values, context.identifiers ≠ .bindings values) :
    ∃ events, (script.run context).2 = context.replay events := by
  induction script generalizing context with
  | done a => exact ⟨[], rfl⟩
  | nullAccess key => exact ⟨[], rfl⟩
  | lookup name next ih =>
      cases hv : context.value? name with
      | some v =>
          rw [run_lookup_value hv]
          exact ih v hc
      | none =>
          cases hi : context.identifiers with
          | bindings values => exact absurd hi (hc values)
          | resolver answer =>
              rw [run_lookup_resolver hv hi]
              exact exists_replay (receive_replay rfl fun v => ih v hc)
          | delayed resolver =>
              rw [run_lookup_delayed hv hi]
              exact exists_replay (receive_replay rfl fun v => ih v hc)
  | known name next ih => exact ih _ hc
  | call name args next ih =>
      cases hf : context.functions.find? name with
      | none =>
          rw [run_call_missing hf]
          exact ih .null hc
      | some f =>
          rw [run_call_found hf]
          exact exists_replay (receive_replay rfl fun v => ih v hc)

end Script

end Guest
