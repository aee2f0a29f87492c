import Guest.Proofs.Evaluation.Run

/-!
# The questions of a run

A run depends on its host only by the answers to the questions that it asks: look-ups, whether
there is a function, and calls.  A host that answers these as another one does is as good as the
other, whatever it would answer to all other questions.
-/

namespace Guest

/-- What a run asks its host. -/
inductive Question where
  | lookup (name : String)
  | known (name : String)
  | call (name : String) (args : List Value)

/-- The answer of a resolver; bindings are not asked. -/
def Identifiers.answer? : Identifiers → List Event → String → Option (Except String Value)
  | .bindings _, _, _ => none
  | .resolver answer, history, name => some (answer history name)
  | .delayed source, history, name => some (source.answer history name)

namespace Context

/-- Two contexts answer a question alike that is asked after the same exchanges. -/
def AnswersAlike (context other : Context) (history : List Event) : Question → Prop
  | .lookup name =>
    context.identifiers.answer? history name = other.identifiers.answer? history name
  | .known name =>
    (context.functions.find? name).isSome = (other.functions.find? name).isSome
  | .call name args =>
    (context.functions.find? name).map (fun f => f history args) =
      (other.functions.find? name).map fun f => f history args

/-- The questions that follow an answer of the host. -/
def askAfter (event : Event) (resume : Value → Context → List (List Event × Question))
    (context : Context) : List (List Event × Question) :=
  match event.answer with
  | .ok v => resume v (context.record event)
  | .error _ => []

end Context

namespace Script

variable {α β : Type}

/-- The questions of a run, each with the exchanges before it. -/
def asked : Script α → Context → List (List Event × Question)
  | done _, _ => []
  | nullAccess _, _ => []
  | lookup name next, context =>
    let ask (answer : Resolver) (context : Context) :=
      (context.history, Question.lookup name) ::
        context.askAfter (.lookup name (answer context.history name)) fun v => (next v).asked
    match context.lookup name with
    | (.bound v, context) => (next v).asked context
    | (.now answer, context) => ask answer context
    | (.later resolver, context) => ask resolver.answer context
  | known name next, context =>
    (context.history, .known name) ::
      (next (context.functions.find? name).isSome).asked context
  | call name args next, context =>
    (context.history, .call name args) ::
      match context.functions.find? name with
      | none => (next .null).asked context
      | some f =>
        context.askAfter (.call name args (f context.history args)) fun v => (next v).asked

/-! ## Questions of one run after another -/

/-- The questions that follow a run, unless it failed. -/
def askThen (outcome : Except EvalError α × Context)
    (next : α → Context → List (List Event × Question)) : List (List Event × Question) :=
  match outcome with
  | (.ok a, context) => next a context
  | (.error _, _) => []

theorem askAfter_append {context : Context} {event : Event} {failed : String → EvalError}
    {resume : Value → Context → Except EvalError α × Context}
    {questions questions' : Value → Context → List (List Event × Question)}
    {next : α → Context → List (List Event × Question)}
    (h : ∀ v context,
      questions' v context = questions v context ++ askThen (resume v context) next) :
    context.askAfter event questions' =
      context.askAfter event questions ++ askThen (context.receive event failed resume) next := by
  unfold Context.askAfter Context.receive
  cases event.answer with
  | ok v => exact h v _
  | error message => rfl

theorem asked_bind (script : Script α) (f : α → Script β) (context : Context) :
    (script.bind f).asked context =
      script.asked context ++ askThen (script.run context) fun a => (f a).asked := by
  induction script generalizing context with
  | done a => rfl
  | nullAccess key => rfl
  | lookup name next ih =>
      simp only [bind, asked, run]
      rcases context.lookup name with ⟨found, after⟩
      cases found with
      | bound v => exact ih v after
      | now answer =>
          rw [List.cons_append]
          exact congrArg _ (askAfter_append ih)
      | later resolver =>
          rw [List.cons_append]
          exact congrArg _ (askAfter_append ih)
  | known name next ih =>
      simp only [bind, asked, run]
      rw [List.cons_append]
      exact congrArg _ (ih _ context)
  | call name args next ih =>
      simp only [bind, asked, run]
      rw [List.cons_append]
      cases context.functions.find? name with
      | none => exact congrArg _ (ih _ context)
      | some f => exact congrArg _ (askAfter_append ih)

/-! ## Scripts with the same run -/

/-- Two scripts have the same run from a context, with the same questions. -/
def SameRun (context : Context) (script other : Script α) : Prop :=
  other.run context = script.run context ∧ other.asked context = script.asked context

theorem SameRun.refl (context : Context) (script : Script α) : SameRun context script script :=
  ⟨rfl, rfl⟩

theorem SameRun.bind {context : Context} {script other : Script α} {f g : α → Script β}
    (h : SameRun context script other)
    (hnext : ∀ a after, script.run context = (.ok a, after) → SameRun after (f a) (g a)) :
    SameRun context (script >>= f) (other >>= g) := by
  obtain ⟨hrun, hasked⟩ := h
  constructor
  · change (other.bind g).run context = (script.bind f).run context
    rw [run_bind, run_bind, hrun]
    rcases hscript : script.run context with ⟨error | a, after⟩
    · rfl
    · exact (hnext a after hscript).1
  · change (other.bind g).asked context = (script.bind f).asked context
    rw [asked_bind, asked_bind, hrun, hasked]
    rcases hscript : script.run context with ⟨error | a, after⟩
    · rfl
    · exact congrArg _ (hnext a after hscript).2

theorem SameRun.bind_left {context : Context} {script other : Script α} {f : α → Script β}
    (h : SameRun context script other) : SameRun context (script >>= f) (other >>= f) :=
  h.bind fun a after _ => .refl after (f a)

theorem SameRun.known {context : Context} {name : String} {next next' : Bool → Script α}
    (h : SameRun context (next (context.functions.find? name).isSome)
      (next' (context.functions.find? name).isSome)) :
    SameRun context (.known name next) (.known name next') :=
  ⟨h.1, congrArg _ h.2⟩

end Script

/-! ## Other hosts -/

/-- Two sources of identifiers without a delay that differ at most in the answers of a resolver. -/
inductive SameSource : Identifiers → Identifiers → Prop where
  | bindings (values : Fields) : SameSource (.bindings values) (.bindings values)
  | resolver (answer other : Resolver) : SameSource (.resolver answer) (.resolver other)

namespace SameSource

variable {source other : Identifiers}

theorem left_ne_delayed (h : SameSource source other) (resolver : DelayedResolver) :
    source ≠ .delayed resolver := by
  cases h <;> simp

theorem right_ne_delayed (h : SameSource source other) (resolver : DelayedResolver) :
    other ≠ .delayed resolver := by
  cases h <;> simp

end SameSource

namespace Context

variable {α : Type} {context : Context} {identifiers : Identifiers} {functions : Functions}
  {event : Event} {failed : String → EvalError}

/-- The context with another source of identifiers and other functions. -/
def withHost (context : Context) (identifiers : Identifiers) (functions : Functions) : Context :=
  { context with identifiers := identifiers, functions := functions }

/-- Another host answers all of some questions as the host of a context does. -/
def AnswersAll (context : Context) (identifiers : Identifiers) (functions : Functions)
    (questions : List (List Event × Question)) : Prop :=
  ∀ question ∈ questions,
    context.AnswersAlike (context.withHost identifiers functions) question.1 question.2

theorem answersAll_cons {question : List Event × Question}
    {questions : List (List Event × Question)} :
    context.AnswersAll identifiers functions (question :: questions) ↔
      context.AnswersAlike (context.withHost identifiers functions) question.1 question.2 ∧
        context.AnswersAll identifiers functions questions :=
  List.forall_mem_cons

theorem value?_withHost {name : String} (hs : SameSource context.identifiers identifiers) :
    (context.withHost identifiers functions).value? name = context.value? name := by
  unfold value? withHost
  cases hi : context.identifiers with
  | bindings values =>
      rw [hi] at hs
      cases hs
      rfl
  | resolver answer =>
      rw [hi] at hs
      cases hs
      rfl
  | delayed resolver =>
      rw [hi] at hs
      cases hs

/-- Two outcomes differ in the host alone. -/
def Rehosted (identifiers : Identifiers) (functions : Functions)
    (outcome other : Except EvalError α × Context) : Prop :=
  other = (outcome.1, outcome.2.withHost identifiers functions)

theorem rehosted_receive {resume resume' : Value → Context → Except EvalError α × Context}
    {questions : Value → Context → List (List Event × Question)}
    (h : ∀ v, context.AnswersAll identifiers functions (questions v (context.record event)) →
      Rehosted identifiers functions (resume v (context.record event))
        (resume' v ((context.record event).withHost identifiers functions)))
    (hasked : context.AnswersAll identifiers functions (context.askAfter event questions)) :
    Rehosted identifiers functions (context.receive event failed resume)
      ((context.withHost identifiers functions).receive event failed resume') := by
  unfold askAfter at hasked
  unfold receive
  cases hanswer : event.answer with
  | ok v =>
      rw [hanswer] at hasked
      exact h v hasked
  | error message => rfl

end Context

namespace Script

open Context

variable {α : Type}

/-- Another host makes the same run of a script wherever it answers the questions alike. -/
def Rehosts (identifiers : Identifiers) (functions : Functions) (script : Script α) : Prop :=
  ∀ context : Context, SameSource context.identifiers identifiers →
    context.AnswersAll identifiers functions (script.asked context) →
    Rehosted identifiers functions (script.run context)
      (script.run (context.withHost identifiers functions))

variable {identifiers : Identifiers} {functions : Functions} {name : String} {args : List Value}

theorem rehosts_lookup {next : Value → Script α}
    (ih : ∀ v, Rehosts identifiers functions (next v)) :
    Rehosts identifiers functions (.lookup name next) := by
  intro context hs h
  cases hv : context.value? name with
  | some v =>
      rw [run_lookup_value hv, run_lookup_value ((value?_withHost hs).trans hv)]
      simp only [asked, Context.lookup, hv] at h
      exact ih v context hs h
  | none =>
      have hv' : (context.withHost identifiers functions).value? name = none :=
        (value?_withHost hs).trans hv
      have hsource := hs
      cases hi : context.identifiers with
      | bindings values =>
          rw [hi] at hsource
          cases hsource
          rw [run_lookup_bindings hv hi, run_lookup_bindings hv' rfl]
          simp only [asked, Context.lookup, hv, hi, Identifiers.lookup] at h
          exact ih .null _ hs h
      | resolver answer =>
          rw [hi] at hsource
          cases hsource with
          | resolver _ other =>
              rw [run_lookup_resolver hv hi, run_lookup_resolver hv' rfl]
              simp only [asked, Context.lookup, hv, hi, Identifiers.lookup, answersAll_cons] at h
              obtain ⟨hanswer, h⟩ := h
              have hsame : answer context.history name = other context.history name := by
                simp only [AnswersAlike, hi] at hanswer
                exact Option.some.inj hanswer
              unfold resolve
              rw [show other ((context.withHost (.resolver other) functions).note name).history
                name = answer (context.note name).history name from hsame.symm]
              exact rehosted_receive (fun v hrest => ih v _ hs hrest) h
      | delayed resolver =>
          rw [hi] at hsource
          cases hsource

theorem rehosts_known {next : Bool → Script α}
    (ih : ∀ known, Rehosts identifiers functions (next known)) :
    Rehosts identifiers functions (.known name next) := by
  intro context hs h
  simp only [asked, answersAll_cons] at h
  obtain ⟨hknown, h⟩ := h
  have hknown' : ((context.withHost identifiers functions).functions.find? name).isSome =
      (context.functions.find? name).isSome := hknown.symm
  simp only [run, hknown']
  exact ih _ context hs h

theorem rehosts_call {next : Value → Script α}
    (ih : ∀ v, Rehosts identifiers functions (next v)) :
    Rehosts identifiers functions (.call name args next) := by
  intro context hs h
  simp only [asked, answersAll_cons] at h
  obtain ⟨hcall, h⟩ := h
  cases hf : context.functions.find? name with
  | none =>
      have hf' : (context.withHost identifiers functions).functions.find? name = none := by
        simp only [AnswersAlike, hf, Option.map_none] at hcall
        exact Option.map_eq_none_iff.mp hcall.symm
      rw [run_call_missing hf, run_call_missing hf']
      rw [hf] at h
      exact ih .null context hs h
  | some f =>
      simp only [AnswersAlike, hf, Option.map_some] at hcall
      obtain ⟨f', hf', hsame⟩ := Option.map_eq_some_iff.mp hcall.symm
      rw [run_call_found hf, run_call_found hf']
      rw [hf] at h
      rw [show f' (context.withHost identifiers functions).history args =
        f context.history args from hsame]
      exact rehosted_receive (fun v hrest => ih v _ hs hrest) h

/-- A host that answers the questions of a run alike makes it the same run. -/
theorem rehosts (script : Script α) : Rehosts identifiers functions script := by
  induction script with
  | done a => exact fun _ _ _ => rfl
  | nullAccess key => exact fun _ _ _ => rfl
  | lookup name next ih => exact rehosts_lookup ih
  | known name next ih => exact rehosts_known ih
  | call name args next ih => exact rehosts_call ih

end Script

end Guest
